import ComponentTags.Proofs.Forest.Elements
import ComponentTags.Proofs.Registry.History
import ComponentTags.Proofs.Resolve.DecisionTable

/-!
# What a resolved forest promises

Code that is generated from a resolved forest relies on what its elements say of themselves: the
ids on them can be looked up and are no built-in tags, and of an `is` that was used nothing is left.
`Settled` lists these promises for one element, and every row of the decision table keeps them
(`settled_settle`); so they hold of every element of every resolved forest, whatever the registry went
through.
-/

namespace ComponentTags

/-- What holds of an element once it is resolved against a registry under some bind prefixes. -/
structure Settled (r : Registry) (prefixes : List String) (e : Element) : Prop where
  /-- A static id is found, and is no casing of a built-in tag. -/
  static_found : ∀ id, e.resolution = .static id →
    id ≠ "" ∧ (r.lookup id).isSome ∧ Category.ofTag id = .custom
  /-- A static id other than the tag comes from an `is`, of which nothing is left. -/
  static_consumed : ∀ id, e.resolution = .static id → id ≠ Text.lowercase e.tag →
    ∀ a ∈ e.attributes, a.name ≠ "is"
  /-- An expression comes from a bound `is`, which stays, and there is no literal one. -/
  dynamic_bound : ∀ expression, e.resolution = .dynamic expression →
    (∀ a ∈ e.attributes, a.name ≠ "is") ∧
      ∃ front ∈ prefixes, ∃ a ∈ e.attributes, a.name = front ++ "is" ∧ a.value = expression
  /-- A literal `is` that stays on a plain element leads nowhere. -/
  plain_literal : e.resolution = .plain → e.tag ≠ "" → ∀ a, FirstNamed "is" e.attributes a →
    a.value = "" ∨ r.lookup a.value = none

section

variable {r : Registry} {prefixes : List String} {e : Element}

/-- Of an element with a static id only the first two promises say anything. -/
theorem Settled.of_static {id : String} (hstatic : e.resolution = .static id) (hne : id ≠ "")
    (hfound : (r.lookup id).isSome) (hcustom : Category.ofTag id = .custom)
    (hused : id ≠ Text.lowercase e.tag → ∀ a ∈ e.attributes, a.name ≠ "is") :
    Settled r prefixes e where
  static_found other hother := by
    obtain rfl : id = other := by simpa [hstatic] using hother
    exact ⟨hne, hfound, hcustom⟩
  static_consumed other hother := by
    obtain rfl : id = other := by simpa [hstatic] using hother
    exact hused
  dynamic_bound expression hdynamic := by simp [hstatic] at hdynamic
  plain_literal hplain := by simp [hstatic] at hplain

/-- Of an element with an expression only the third one does. -/
theorem Settled.of_dynamic {expression : String} (hdynamic : e.resolution = .dynamic expression)
    (hnone : ∀ a ∈ e.attributes, a.name ≠ "is")
    (hbound : ∃ front ∈ prefixes, ∃ a ∈ e.attributes, a.name = front ++ "is" ∧
      a.value = expression) :
    Settled r prefixes e where
  static_found id hstatic := by simp [hdynamic] at hstatic
  static_consumed id hstatic := by simp [hdynamic] at hstatic
  dynamic_bound other hother := by
    obtain rfl : expression = other := by simpa [hdynamic] using hother
    exact ⟨hnone, hbound⟩
  plain_literal hplain := by simp [hdynamic] at hplain

/-- Of a plain element only the last one does. -/
theorem Settled.of_plain (hplain : e.resolution = .plain)
    (hliteral : e.tag ≠ "" → ∀ a, FirstNamed "is" e.attributes a →
      a.value = "" ∨ r.lookup a.value = none) :
    Settled r prefixes e where
  static_found id hstatic := by simp [hplain] at hstatic
  static_consumed id hstatic := by simp [hplain] at hstatic
  dynamic_bound expression hdynamic := by simp [hplain] at hdynamic
  plain_literal _ := hliteral

/-- An override leaves the tag, and settles the element. -/
theorem Overridden.settled {resolution : Resolution} {left : Element} (hr : r.Sound)
    (h : Overridden r.lookup prefixes e resolution left) :
    Settled r prefixes { left with resolution } := by
  cases h with
  | @literal a hfirst hne hfound =>
    have hused : ∀ b ∈ e.attributes.filter (·.name != "is"), b.name ≠ "is" := by
      intro b hb
      exact bne_iff_ne.mp (List.mem_filter.mp hb).2
    exact .of_static rfl hne hfound (hr.category_of_lookup hfound) fun _ => hused
  | @bound passed others front a hnone hprefixes hpassed hfirst =>
    have hfront : front ∈ prefixes := by
      rw [hprefixes]
      exact List.mem_append_right _ List.mem_cons_self
    exact .of_dynamic rfl hnone ⟨front, hfront, a, hfirst.mem, hfirst.name_eq, rfl⟩

/-- An element without an override that stays plain is settled: its first literal `is` would else be
one. -/
theorem settled_of_not_overridden
    (h : ∀ resolution left, ¬Overridden r.lookup prefixes e resolution left) :
    Settled r prefixes { e with resolution := .plain } := by
  apply Settled.of_plain rfl
  intro _ a hfirst
  by_contra hcon
  simp only [not_or, ← Option.isSome_iff_ne_none] at hcon
  exact h _ _ (.literal hfirst hcon.1 hcon.2)

/-- Every row of the decision table settles the element. -/
theorem settled_settle {host : Host} {options : Options} (hr : options.components.Sound)
    (e : Element) : Settled options.components options.bindPrefixes (e.settle host options) := by
  have hdecided : Decided host options.components.lookup options e (resolve host options e) :=
    decided_resolveWith
  unfold Element.settle
  generalize resolve host options e = outcome at hdecided
  cases hdecided with
  | noTag htag =>
    apply Settled.of_plain rfl
    intro hne
    exact absurd (Text.lowercase_eq_empty_iff.mp htag) hne
  | found htag hcategory hfound =>
    apply Settled.of_static rfl htag hfound hcategory
    intro hne
    exact absurd rfl hne
  | overridden htag hmissed hover => exact hover.settled hr
  | builtIn htag hcategory hover => exact settled_of_not_overridden hover
  | unresolved htag hcategory hmissed hover hwarned => exact settled_of_not_overridden hover

end

/-- Whatever the registry went through and whatever else the options say, every element of a resolved
forest is settled. -/
theorem settled_of_mem_resolveAll {host : Host} {options : Options}
    (hr : options.components.Reachable) {nodes : List Node} {e : Element}
    (he : e ∈ elementsOf (resolveAll host options nodes).1) :
    Settled options.components options.bindPrefixes e := by
  rw [elementsOf_resolveAll] at he
  obtain ⟨before, -, rfl⟩ := List.mem_map.mp he
  exact settled_settle hr.sound before

/-- A reserved id in a letter case beyond ASCII is refused, a native one is left out on loading, and a
literal `is` given twice is used up below an element that stays plain. -/
theorem settled_of_repeated_is :
    (Registry.run [.load [("div", {}), ("MyWidget", {})], .register "ſlot" {}]).Reachable ∧
      Settled (Registry.run [.load [("div", {}), ("MyWidget", {})], .register "ſlot" {}])
        [":", "v-bind:"]
        { tag := "div", attributes := [⟨":is", "view", {}⟩], resolution := .static "my-widget" } :=
  ⟨⟨_, rfl⟩, @settled_of_mem_resolveAll .browser
    (.ofRegistry (Registry.run [.load [("div", {}), ("MyWidget", {})], .register "ſlot" {}])) ⟨_, rfl⟩
    [.element { tag := "P" } [.element { tag := "div", attributes :=
      [⟨"is", "my-widget", {}⟩, ⟨":is", "view", {}⟩, ⟨"is", "other", {}⟩] } []]]
    _ (by decide +kernel)⟩

end ComponentTags
