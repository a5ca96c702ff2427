import ComponentTags.Proofs.Forest.Walk
import ComponentTags.Proofs.Registry.History

/-!
# Resolving a forest again

Resolving is not idempotent: a literal `is` that was used is gone when the forest is resolved again, and
its element then falls back on its bound form. But that is all, and it happens once. The second pass
changes no attribute (`element_resolve_settle`), so from then on every element is settled for good
(`settle_settle_settle`) and every pass gives the same forest and the same warnings
(`passes_stabilise`).
-/

namespace ComponentTags

/-- A forest after some passes, and the warnings of the last of them. -/
def passes (host : Host) (options : Options) (nodes : List Node) : Nat → List Node × List Notice
  | 0 => (nodes, [])
  | k + 1 => resolveAll host options (passes host options nodes k).1

/-- An element had a literal `is`, and has none any more. -/
def Consumed (before after : Element) : Prop :=
  (∃ a ∈ before.attributes, a.name = "is") ∧ ∀ a ∈ after.attributes, a.name ≠ "is"

/-- What an element resolves to by its bound `is`, if it has one under these prefixes. -/
def Element.boundResolution (prefixes : List String) (e : Element) : Resolution :=
  match e.boundAttribute? prefixes "is" with
  | some expression => .dynamic expression
  | none => .plain

section

variable {host : Host} {lookup : Lookup} {options : Options} {prefixes : List String} {e : Element}

/-! ## Elements without a literal `is` -/

theorem Overridden.eq_boundResolution {resolution : Resolution} {left : Element}
    (hnone : ∀ a ∈ e.attributes, a.name ≠ "is") (h : Overridden lookup prefixes e resolution left) :
    left = e ∧ resolution = e.boundResolution prefixes := by
  cases h with
  | literal hfirst => exact absurd hfirst.name_eq (hnone _ hfirst.mem)
  | @bound passed others front a _ hprefixes hpassed hfirst =>
    have hbound : e.boundAttribute? prefixes "is" = some a.value :=
      Element.boundAttribute?_eq_some_iff.mpr
        ⟨passed, front, others, hprefixes, hpassed, a, hfirst, rfl⟩
    exact ⟨rfl, by rw [Element.boundResolution, hbound]⟩

theorem boundResolution_of_not_overridden (hnone : ∀ a ∈ e.attributes, a.name ≠ "is")
    (h : ∀ resolution left, ¬Overridden lookup prefixes e resolution left) :
    e.boundResolution prefixes = .plain := by
  unfold Element.boundResolution
  split
  · next expression hbound =>
    obtain ⟨passed, front, others, hprefixes, hpassed, a, hfirst, -⟩ :=
      Element.boundAttribute?_eq_some_iff.mp hbound
    exact absurd (.bound hnone hprefixes hpassed hfirst) (h (.dynamic a.value) e)
  · rfl

/-- An element whose tag is not found and that has no literal `is` resolves by its bound form and is left
as it is. -/
theorem Decided.eq_boundResolution {outcome : Outcome} (h : Decided host lookup options e outcome)
    (htag : Text.lowercase e.tag ≠ "")
    (hmissed : Category.ofTag (Text.lowercase e.tag) = .custom →
      lookup (Text.lowercase e.tag) = none)
    (hnone : ∀ a ∈ e.attributes, a.name ≠ "is") :
    outcome.element = e ∧ outcome.resolution = e.boundResolution options.bindPrefixes := by
  cases h with
  | noTag hempty => exact absurd hempty htag
  | found _ hcategory hfound =>
    rw [hmissed hcategory] at hfound
    cases hfound
  | overridden _ _ hover => exact hover.eq_boundResolution hnone
  | builtIn _ _ hover => exact ⟨rfl, (boundResolution_of_not_overridden hnone hover).symm⟩
  | unresolved _ _ _ hover => exact ⟨rfl, (boundResolution_of_not_overridden hnone hover).symm⟩

/-! ## Settling again -/

/-- What resolving leaves as it is, it leaves as it is with the resolution noted on it. -/
theorem resolve_settle_of_same (h : (resolve host options e).element = e) :
    resolve host options (e.settle host options) =
      { resolve host options e with element := e.settle host options } := by
  have hsettle : e.settle host options =
      { e with resolution := (resolve host options e).resolution } := by
    rw [Element.settle, h]
  rw [hsettle, resolve_withResolution, h]

theorem settle_settle_of_same (h : (resolve host options e).element = e) :
    (e.settle host options).settle host options = e.settle host options := by
  rw [Element.settle, resolve_settle_of_same h]
  simp only [Element.settle]

theorem notice?_settle_of_same (h : (resolve host options e).element = e) :
    (e.settle host options).notice? host options = e.notice? host options := by
  rw [Element.notice?, resolve_settle_of_same h, Element.settle_location, Element.notice?]

/-- Either the first pass leaves an element as it is, or it consumes its `is`; the element then resolves
by its bound form, and is left as it is. -/
theorem settle_cases (e : Element) :
    (resolve host options e).element = e ∧ ¬Consumed e (e.settle host options) ∨
      Consumed e (e.settle host options) ∧
        (resolve host options (e.settle host options)).element = e.settle host options ∧
        (resolve host options (e.settle host options)).resolution =
          (e.settle host options).boundResolution options.bindPrefixes := by
  rcases (@decided_resolve host options e).element_cases with
    hsame | ⟨htag, hmissed, hliteral, hremoved⟩
  · refine Or.inl ⟨hsame, ?_⟩
    rintro ⟨⟨a, ha, hname⟩, hnone⟩
    have hkept : a ∈ (e.settle host options).attributes := by
      rw [Element.settle_attributes, hsame]
      exact ha
    exact hnone a hkept hname
  · have hnone : ∀ a ∈ (e.settle host options).attributes, a.name ≠ "is" := by
      intro a ha
      rw [Element.settle_attributes, hremoved] at ha
      exact bne_iff_ne.mp (List.mem_filter.mp ha).2
    -- the tag is the same as before, so it is still not found
    rw [← @Element.settle_tag host options e] at htag hmissed
    have hbound := (@decided_resolve host options (e.settle host options)).eq_boundResolution htag
      hmissed hnone
    exact Or.inr ⟨⟨hliteral, hnone⟩, hbound⟩

/-- A second time, resolving leaves every element as it is. -/
theorem element_resolve_settle (e : Element) :
    (resolve host options (e.settle host options)).element = e.settle host options := by
  rcases @settle_cases host options e with ⟨hsame, -⟩ | ⟨-, hsame, -⟩
  · rw [resolve_settle_of_same hsame]
  · exact hsame

/-- From the second pass on, an element stays as it is. -/
theorem settle_settle_settle (e : Element) :
    ((e.settle host options).settle host options).settle host options =
      (e.settle host options).settle host options :=
  settle_settle_of_same (element_resolve_settle e)

/-! ## Passes over a forest -/

/-- A third pass does and says what the second one did. -/
theorem resolveAll_thrice (nodes : List Node) :
    resolveAll host options (resolveAll host options (resolveAll host options nodes).1).1 =
      resolveAll host options (resolveAll host options nodes).1 := by
  have hsettle : Element.settle host options ∘ Element.settle host options ∘
      Element.settle host options = Element.settle host options ∘ Element.settle host options :=
    funext fun e => by simp only [Function.comp_apply, settle_settle_settle]
  have hnotice : Element.notice? host options ∘ Element.settle host options ∘
      Element.settle host options = Element.notice? host options ∘ Element.settle host options :=
    funext fun e => by
      simp only [Function.comp_apply, notice?_settle_of_same (element_resolve_settle e)]
  simp only [resolveAll_eq, mapAll_mapAll, elementsOf_mapAll, List.filterMap_map, hsettle, hnotice]

/-- The second pass changes nothing but resolutions. -/
theorem mapAll_plain_passes_two (nodes : List Node) :
    mapAll (fun e => { e with resolution := .plain }) (passes host options nodes 2).1 =
      mapAll (fun e => { e with resolution := .plain }) (passes host options nodes 1).1 := by
  have hplain : ∀ e : Element,
      { (e.settle host options).settle host options with resolution := .plain } =
        { e.settle host options with resolution := .plain } := by
    intro e
    rw [Element.settle, element_resolve_settle]
  simp only [passes, resolveAll_fst, mapAll_mapAll, Function.comp_def, hplain]

/-- Whatever the number of passes, from the second on they give what the second gave. -/
theorem passes_eq_passes_two {nodes : List Node} {n : Nat} (hn : 2 ≤ n) :
    passes host options nodes n = passes host options nodes 2 := by
  induction hn with
  | refl => rfl
  | step _ ih =>
    rw [passes, ih]
    exact resolveAll_thrice nodes

/-- A pass settles every element where it stands. -/
theorem getElem?_elementsOf_passes_succ (nodes : List Node) (k i : Nat) :
    (elementsOf (passes host options nodes (k + 1)).1)[i]? =
      ((elementsOf (passes host options nodes k).1)[i]?).map (Element.settle host options) := by
  rw [passes, elementsOf_resolveAll, List.getElem?_map]

/-- Repeated passes stabilise after the first. The second one changes nothing but resolutions, and all
later ones leave the same forest as the second and give the same warnings. An element whose literal `is`
the first pass did not consume keeps the resolution it has after that pass; at one whose `is` was
consumed, every later pass resolves the bound form that is left on it. -/
theorem passes_stabilise (host : Host) (options : Options) (nodes : List Node) :
    mapAll (fun e => { e with resolution := .plain }) (passes host options nodes 2).1 =
        mapAll (fun e => { e with resolution := .plain }) (passes host options nodes 1).1 ∧
      (∀ n, 2 ≤ n → passes host options nodes n = passes host options nodes 2) ∧
      ∀ (i : Nat) (before : Element), (elementsOf nodes)[i]? = some before →
        ∃ after, (elementsOf (passes host options nodes 1).1)[i]? = some after ∧
          (¬Consumed before after →
            ((elementsOf (passes host options nodes 2).1)[i]?).map Element.resolution =
              some after.resolution) ∧
          (Consumed before after → ∀ n, 2 ≤ n →
            ((elementsOf (passes host options nodes n).1)[i]?).map Element.resolution =
              some (after.boundResolution options.bindPrefixes)) := by
  refine ⟨mapAll_plain_passes_two nodes, fun n hn => passes_eq_passes_two hn, ?_⟩
  intro i before hbefore
  have hfirst : (elementsOf (passes host options nodes 1).1)[i]? =
      some (before.settle host options) := by
    rw [getElem?_elementsOf_passes_succ, passes, hbefore, Option.map_some]
  have hsecond : ((elementsOf (passes host options nodes 2).1)[i]?).map Element.resolution =
      some (resolve host options (before.settle host options)).resolution := by
    rw [getElem?_elementsOf_passes_succ, hfirst, Option.map_some, Option.map_some,
      Element.settle_resolution]
  refine ⟨before.settle host options, hfirst, ?_, ?_⟩
  · intro hkept
    rw [hsecond]
    rcases @settle_cases host options before with ⟨hsame, -⟩ | ⟨hconsumed, -⟩
    · rw [resolve_settle_of_same hsame, Element.settle_resolution]
    · exact absurd hconsumed hkept
  · intro hconsumed n hn
    rw [passes_eq_passes_two hn, hsecond]
    rcases @settle_cases host options before with ⟨-, hkept⟩ | ⟨-, -, hbound⟩
    · exact absurd hconsumed hkept
    · rw [hbound]

/-- Two elements whose `is` is used: seven passes later one stands for its bound form, and the other, which
has none, is plain and warned of. -/
theorem passes_of_used_is :
    (elementsOf (passes .browser (.ofRegistry (.run [.register "MyWidget" {}]))
      [.element { tag := "div", attributes := [⟨"is", "my-widget", {}⟩, ⟨":is", "view", {}⟩] }
        [.element { tag := "x-card", attributes := [⟨"is", "MyWidget", {}⟩] } []]] 7).1).map
      Element.resolution = [.dynamic "view", .plain] ∧
    (passes .browser (.ofRegistry (.run [.register "MyWidget" {}]))
      [.element { tag := "div", attributes := [⟨"is", "my-widget", {}⟩, ⟨":is", "view", {}⟩] }
        [.element { tag := "x-card", attributes := [⟨"is", "MyWidget", {}⟩] } []]] 7).2 =
      [(.unknown "x-card", {})] := by
  rw [(passes_stabilise _ _ _).2.1 7 (by decide)]
  decide +kernel

end

end ComponentTags
