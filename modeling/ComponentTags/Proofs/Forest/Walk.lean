import ComponentTags.Proofs.Forest.Elements

/-!
# The walk over a forest

Resolving a forest is a map over its elements, and the warnings are listed in document order. This file
says what that map does to an element (`settledFrom_settle`), what a sink makes of the warnings when they
are sent to it one by one during the walk (`resolveAllInto_eq`), and puts both together with the list of
components, which another recursion collects (`resolveAll_local`).
-/

namespace ComponentTags

/-! ## Sinks

A sink is seen here as a state, with a function that says what it becomes on receiving a warning about
an element at a place; `Sink.receive` is one. -/

section

variable {σ : Type}

mutual

/-- Resolves a node and all below it, and sends each warning to a sink as soon as it is given. -/
def Node.resolveInto (receive : σ → Warning → Location → σ) (host : Host) (options : Options)
    (state : σ) : Node → Node × σ
  | .element e children =>
    let outcome := ComponentTags.resolve host options e
    let told :=
      match outcome.warning with
      | some warning => receive state warning e.location
      | none => state
    let (below, after) := resolveAllInto receive host options told children
    (.element { outcome.element with resolution := outcome.resolution } below, after)
  | .text value location => (.text value location, state)
  | .comment value location => (.comment value location, state)

/-- Resolves the nodes of a forest from left to right, and sends each warning to a sink as soon as it is
given. -/
def resolveAllInto (receive : σ → Warning → Location → σ) (host : Host) (options : Options)
    (state : σ) : List Node → List Node × σ
  | [] => ([], state)
  | node :: rest =>
    let (first, between) := node.resolveInto receive host options state
    let (others, after) := resolveAllInto receive host options between rest
    (first :: others, after)

end

/-- What becomes of a sink that receives some warnings in turn. -/
def receiveAll (receive : σ → Warning → Location → σ) (state : σ) (notices : List Notice) : σ :=
  notices.foldl (fun state notice => receive state notice.1 notice.2) state

variable {receive : σ → Warning → Location → σ} {host : Host} {options : Options}

theorem receiveAll_append (state : σ) (notices more : List Notice) :
    receiveAll receive state (notices ++ more) =
      receiveAll receive (receiveAll receive state notices) more :=
  List.foldl_append

mutual

theorem Node.resolveInto_eq (state : σ) (node : Node) :
    node.resolveInto receive host options state =
      ((node.resolve host options).1, receiveAll receive state (node.resolve host options).2) := by
  cases node with
  | element e children =>
    rw [Node.resolveInto, Node.resolve]
    dsimp only
    rw [resolveAllInto_eq _ children, receiveAll_append]
    cases (ComponentTags.resolve host options e).warning <;> rfl
  | text value location =>
    rw [Node.resolveInto, Node.resolve]
    rfl
  | comment value location =>
    rw [Node.resolveInto, Node.resolve]
    rfl

/-- A sink that is told during the walk receives what the walk lists, in that order, and does not change
what the walk leaves. -/
theorem resolveAllInto_eq (state : σ) (nodes : List Node) :
    resolveAllInto receive host options state nodes =
      ((resolveAll host options nodes).1, receiveAll receive state (resolveAll host options nodes).2) := by
  cases nodes with
  | nil =>
    rw [resolveAllInto, resolveAll]
    rfl
  | cons node rest =>
    rw [resolveAllInto, resolveAll]
    dsimp only
    rw [node.resolveInto_eq, resolveAllInto_eq _ rest, receiveAll_append]

end

end

/-! ## Elements -/

section

variable {host : Host} {options : Options}

/-- What is left of an element that was resolved on its own. -/
structure Element.SettledFrom (host : Host) (options : Options) (before after : Element) : Prop where
  tag_eq : after.tag = before.tag
  location_eq : after.location = before.location
  /-- The attributes stay, or exactly those named `is` go. -/
  attributes_eq : after.attributes = before.attributes ∨
    after.attributes = before.attributes.filter (·.name != "is")
  /-- Attributes and resolution are those that resolving the element gives, whatever resolution was
  noted on it before. -/
  outcome_eq : ∀ noted,
    after.attributes = (resolve host options { before with resolution := noted }).element.attributes ∧
      after.resolution = (resolve host options { before with resolution := noted }).resolution

theorem settledFrom_settle (e : Element) : e.SettledFrom host options (e.settle host options) where
  tag_eq := e.settle_tag
  location_eq := e.settle_location
  attributes_eq := by
    rw [Element.settle_attributes]
    exact decided_resolve.attributes_cases
  outcome_eq noted := by
    rw [Element.settle_attributes, Element.settle_resolution, resolve_withResolution noted]
    simp only [and_self]

theorem isComponent_eq_decide (resolution : Resolution) :
    resolution.isComponent = decide (resolution ≠ .plain) := by
  cases resolution <;> rfl

/-! ## The whole walk -/

/-- Resolving a forest is local, and everything happens in document order.

* It maps the forest by a function of single elements, so texts, comments and the order of children are
  the same as before.
* That function keeps tag and place, and makes of the rest what resolving the element alone gives.
* The warnings are those of the elements, parents before children and left before right; a sink receives
  them in this order.
* The components are the elements that resolve to one, in the same order; none of them has a warning. -/
theorem resolveAll_local (host : Host) (options : Options) (nodes : List Node) :
    (resolveAll host options nodes).1 = mapAll (Element.settle host options) nodes ∧
      (∀ e : Element, e.SettledFrom host options (e.settle host options)) ∧
      (resolveAll host options nodes).2 =
        (elementsOf nodes).filterMap (fun e =>
          (resolve host options e).warning.map fun warning => (warning, e.location)) ∧
      (∀ (σ : Type) (receive : σ → Warning → Location → σ) (state : σ),
        resolveAllInto receive host options state nodes =
          ((resolveAll host options nodes).1,
            (resolveAll host options nodes).2.foldl
              (fun state notice => receive state notice.1 notice.2) state)) ∧
      (∀ source, Template.components ⟨source, (resolveAll host options nodes).1⟩ =
        ((elementsOf nodes).map fun e => (e.tag, (resolve host options e).resolution)).filter
          (·.2 ≠ .plain)) ∧
      ∀ e, (resolve host options e).warning ≠ none → (resolve host options e).resolution = .plain := by
  refine ⟨resolveAll_fst nodes, settledFrom_settle, resolveAll_snd nodes,
    fun σ receive state => resolveAllInto_eq state nodes, ?_, ?_⟩
  · intro source
    have htags : ∀ e : Element, ((e.settle host options).tag, (e.settle host options).resolution) =
        (e.tag, (resolve host options e).resolution) := by
      intro e
      rw [Element.settle_tag]
      rfl
    rw [Template.components, componentsOf_eq, elementsOf_resolveAll, List.map_map]
    simp only [Function.comp_def, htags]
    apply List.filter_congr
    intro component _
    exact isComponent_eq_decide component.2
  · intro e hwarning
    have hplain : ¬(resolve host options e).resolution.isComponent = true :=
      fun hcomponent => hwarning (decided_resolve.warning_eq_none hcomponent)
    rw [isComponent_eq_decide, decide_eq_true_iff] at hplain
    exact Decidable.not_not.mp hplain

end

end ComponentTags
