import ComponentTags.Compile
import ComponentTags.Proofs.Forest.Walk
import ComponentTags.Proofs.Registry.History

/-!
# Diagnostics do not interfere

Warnings are for the developer. What a template compiles to hangs on the components and the bind
prefixes only: two runs that agree on these leave the same forest, whatever hosts they ask, whatever
spellings they suggest, whether they warn or not, and whatever their sinks do with the warnings
(`compile_noninterference`). Without diagnostics no sink is sent anything.
-/

namespace ComponentTags

section

variable {σ : Type} {receive : σ → Warning → Location → σ} {host : Host} {options : Options}

/-- Reads a template and resolves it, and sends each warning to a sink as soon as it is given. -/
def compileInto (receive : σ → Warning → Location → σ) (host : Host) (options : Options) (state : σ)
    (source : String) : Template × σ :=
  let template := Template.parse source
  let (nodes, after) := resolveAllInto receive host options state template.nodes
  ({ template with nodes }, after)

theorem compile_eq (source : String) :
    compile host options source =
      ({ Template.parse source with
          nodes := (resolveAll host options (Template.parse source).nodes).1 },
        (resolveAll host options (Template.parse source).nodes).2) := by
  rw [compile]

/-- Compiling with a sink leaves the same template, and sends the sink what compiling lists. -/
theorem compileInto_eq (state : σ) (source : String) :
    compileInto receive host options state source =
      ((compile host options source).1, receiveAll receive state (compile host options source).2) := by
  rw [compileInto, resolveAllInto_eq, compile_eq]

/-! ## Without diagnostics -/

theorem notice?_of_silent (h : options.diagnostics = false) (e : Element) :
    e.notice? host options = none := by
  have hsilent : ∀ tag, unresolvedWarning? host options tag = none :=
    fun tag => (Warned.silent h).unresolvedWarning?_eq
  rw [Element.notice?, decided_resolve.warning_eq, hsilent, ite_self, Option.map_none]

theorem resolveAll_snd_of_silent (h : options.diagnostics = false) (nodes : List Node) :
    (resolveAll host options nodes).2 = [] := by
  rw [resolveAll_snd, List.filterMap_eq_nil_iff]
  intro e _
  exact notice?_of_silent h e

end

/-! ## Two runs -/

section

variable {host host' : Host} {options options' : Options}

/-- An element is settled in the same way by runs that agree on components and prefixes. -/
theorem settle_agree (hcomponents : options.components = options'.components)
    (hprefixes : options.bindPrefixes = options'.bindPrefixes) (e : Element) :
    e.settle host options = e.settle host' options' := by
  have hrow : ∃ warning, Decided host' options.components.lookup options' e
      { resolve host options e with warning } :=
    decided_resolve.agree hprefixes
  rw [hcomponents] at hrow
  obtain ⟨warning, hother⟩ := hrow
  rw [Element.settle, Element.settle, hother.resolve_eq]

theorem resolveAll_fst_agree (hcomponents : options.components = options'.components)
    (hprefixes : options.bindPrefixes = options'.bindPrefixes) (nodes : List Node) :
    (resolveAll host options nodes).1 = (resolveAll host' options' nodes).1 := by
  rw [resolveAll_fst, resolveAll_fst, funext (settle_agree hcomponents hprefixes)]

theorem compile_fst_agree (hcomponents : options.components = options'.components)
    (hprefixes : options.bindPrefixes = options'.bindPrefixes) (source : String) :
    (compile host options source).1 = (compile host' options' source).1 := by
  rw [compile_eq, compile_eq, resolveAll_fst_agree hcomponents hprefixes]

/-- Two runs under options with the same components and bind prefixes leave the same forest and the
same template, with the same components, whatever else differs between their options, hosts and
sinks. A run without diagnostics gives no warning, and no sink changes. -/
theorem compile_noninterference (hcomponents : options.components = options'.components)
    (hprefixes : options.bindPrefixes = options'.bindPrefixes) {σ τ : Type}
    (receive : σ → Warning → Location → σ) (receive' : τ → Warning → Location → τ) (state : σ)
    (state' : τ) (source : String) (nodes : List Node) :
    (resolveAll host options nodes).1 = (resolveAll host' options' nodes).1 ∧
      (resolveAllInto receive host options state nodes).1 =
        (resolveAllInto receive' host' options' state' nodes).1 ∧
      (compile host options source).1 = (compile host' options' source).1 ∧
      (compileInto receive host options state source).1 =
        (compileInto receive' host' options' state' source).1 ∧
      componentsOf (resolveAll host options nodes).1 =
        componentsOf (resolveAll host' options' nodes).1 ∧
      (compile host options source).1.components = (compile host' options' source).1.components ∧
      (options.diagnostics = false →
        (resolveAll host options nodes).2 = [] ∧
          (resolveAllInto receive host options state nodes).2 = state ∧
          (compile host options source).2 = [] ∧
          (compileInto receive host options state source).2 = state) := by
  have hnodes : (resolveAll host options nodes).1 = (resolveAll host' options' nodes).1 :=
    resolveAll_fst_agree hcomponents hprefixes nodes
  have htemplate : (compile host options source).1 = (compile host' options' source).1 :=
    compile_fst_agree hcomponents hprefixes source
  rw [resolveAllInto_eq, resolveAllInto_eq, compileInto_eq, compileInto_eq]
  dsimp only
  refine ⟨hnodes, hnodes, htemplate, htemplate, by rw [hnodes], by rw [htemplate], ?_⟩
  intro hsilent
  have hnone : (compile host options source).2 = [] := by
    rw [compile_eq, resolveAll_snd_of_silent hsilent]
  rw [resolveAll_snd_of_silent hsilent, hnone]
  exact ⟨rfl, rfl, rfl, rfl⟩

/-- Suggestions that know nothing of the registry are told to one run and not to the other; the latter
counts its warnings and stays at none. -/
theorem compile_noninterference_of_contrary_names :
    (resolveAll .browser
      { components := .run [.register "MyWidget" {}], nameMap := some (Registry.namesOf ["x-card"]) }
      [.element { tag := "xcard", attributes := [⟨"is", "none-such", {}⟩] } []]).2 =
        [(.misCased "xcard" "x-card", {})] ∧
    (compile .permissive { components := .run [.register "MyWidget" {}], diagnostics := false }
      "<xcard is=none-such><p is=my-widget></xcard>").1 =
        (compile .browser
          { components := .run [.register "MyWidget" {}],
            nameMap := some (Registry.namesOf ["x-card"]) }
          "<xcard is=none-such><p is=my-widget></xcard>").1 ∧
    (resolveAllInto (fun count _ _ => count + 1) .permissive
      { components := .run [.register "MyWidget" {}], diagnostics := false } 0
      [.element { tag := "xcard", attributes := [⟨"is", "none-such", {}⟩] } []]).2 = 0 := by
  obtain ⟨-, -, htemplate, -, -, -, hsilent⟩ := @compile_noninterference .permissive .browser
    { components := .run [.register "MyWidget" {}], diagnostics := false }
    { components := .run [.register "MyWidget" {}], nameMap := some (Registry.namesOf ["x-card"]) }
    rfl rfl Nat Record (fun count _ _ => count + 1) Sink.collect.receive 0 {}
    "<xcard is=none-such><p is=my-widget></xcard>"
    [.element { tag := "xcard", attributes := [⟨"is", "none-such", {}⟩] } []]
  exact ⟨by decide +kernel, htemplate, (hsilent rfl).2.1⟩

end

end ComponentTags
