import ComponentTags.Proofs.Resolve.DecisionTable

/-!
# What an outcome depends on

The outcome of resolving an element has three parts, and this file reads off the decision table what each
of them hangs on.

* The element is left as it is, or a literal `is` was used and all of them are removed
  (`Decided.element_cases`).
* Whether the element is a component is a matter of its tag, the lookup and its override
  (`Decided.isComponent_iff`). Neither the host nor the suggestions or the switch for warnings has a say
  in it (`Decided.agree`), nor has what was noted on the element before (`Decided.withResolution`).
* A warning is given only for an element that is no component (`Decided.warning_eq`).
-/

namespace ComponentTags

section

variable {host : Host} {lookup : Lookup} {options : Options} {prefixes : List String} {e : Element}
  {outcome : Outcome}

/-- Resolving against the components of the options follows the table for their lookup. -/
theorem decided_resolve :
    Decided host options.components.lookup options e (resolve host options e) :=
  decided_resolveWith

theorem Decided.resolve_eq (h : Decided host options.components.lookup options e outcome) :
    resolve host options e = outcome :=
  h.resolveWith_eq

/-! ## The element -/

/-- Resolving leaves an element as it is, unless a literal `is` decided: its tag is then not found, and
of the attributes named `is` none is left. -/
theorem Decided.element_cases (h : Decided host lookup options e outcome) :
    outcome.element = e ∨
      Text.lowercase e.tag ≠ "" ∧
        (Category.ofTag (Text.lowercase e.tag) = .custom → lookup (Text.lowercase e.tag) = none) ∧
        (∃ a ∈ e.attributes, a.name = "is") ∧
        outcome.element = { e with attributes := e.attributes.filter (·.name != "is") } := by
  cases h with
  | noTag htag => exact Or.inl rfl
  | found htag hcategory hfound => exact Or.inl rfl
  | overridden htag hmissed hover =>
    cases hover with
    | literal hfirst hne hfound =>
      exact Or.inr ⟨htag, hmissed, ⟨_, hfirst.mem, hfirst.name_eq⟩, rfl⟩
    | bound hnone hprefixes hpassed hfirst => exact Or.inl rfl
  | builtIn htag hcategory hover => exact Or.inl rfl
  | unresolved htag hcategory hmissed hover hwarned => exact Or.inl rfl

theorem Decided.attributes_cases (h : Decided host lookup options e outcome) :
    outcome.element.attributes = e.attributes ∨
      outcome.element.attributes = e.attributes.filter (·.name != "is") := by
  rcases h.element_cases with hsame | ⟨-, -, -, hremoved⟩
  · exact Or.inl (by rw [hsame])
  · exact Or.inr (by rw [hremoved])

/-- Nothing but attributes changes. -/
theorem Decided.element_eq (h : Decided host lookup options e outcome) :
    outcome.element = { e with attributes := outcome.element.attributes } := by
  rcases h.element_cases with hsame | ⟨-, -, -, hremoved⟩
  · rw [hsame]
  · rw [hremoved]

/-! ## The resolution -/

theorem Overridden.isComponent {resolution : Resolution} {left : Element}
    (h : Overridden lookup prefixes e resolution left) : resolution.isComponent = true := by
  cases h with
  | literal => rfl
  | bound => rfl

/-- An element is a component if it has a tag, and either that is a custom tag that is found, or there is
an override. -/
theorem Decided.isComponent_iff (h : Decided host lookup options e outcome) :
    outcome.resolution.isComponent = true ↔
      Text.lowercase e.tag ≠ "" ∧
        (Category.ofTag (Text.lowercase e.tag) = .custom ∧ (lookup (Text.lowercase e.tag)).isSome ∨
          ∃ resolution left, Overridden lookup options.bindPrefixes e resolution left) := by
  cases h with
  | noTag htag => simp [Resolution.isComponent, htag]
  | found htag hcategory hfound => simp [Resolution.isComponent, htag, hcategory, hfound]
  | overridden htag hmissed hover =>
    simp only [hover.isComponent, true_iff]
    exact ⟨htag, Or.inr ⟨_, _, hover⟩⟩
  | builtIn htag hcategory hover => simp [Resolution.isComponent, hcategory, hover]
  | unresolved htag hcategory hmissed hover hwarned => simp [Resolution.isComponent, hmissed, hover]

/-! ## The warning -/

/-- A warning is given only for a custom tag that stands for no component, and is then that of an
unresolved tag. -/
theorem Decided.warning_eq (h : Decided host lookup options e outcome) :
    outcome.warning =
      if Text.lowercase e.tag ≠ "" ∧ Category.ofTag (Text.lowercase e.tag) = .custom ∧
          outcome.resolution.isComponent = false then
        unresolvedWarning? host options (Text.lowercase e.tag)
      else none := by
  cases h with
  | noTag htag => rw [if_neg fun hcond => hcond.1 htag]
  | found htag hcategory hfound => simp [Resolution.isComponent]
  | overridden htag hmissed hover => simp [hover.isComponent]
  | builtIn htag hcategory hover => rw [if_neg fun hcond => hcategory hcond.2.1]
  | unresolved htag hcategory hmissed hover hwarned =>
    rw [if_pos ⟨htag, hcategory, rfl⟩, hwarned.unresolvedWarning?_eq]

/-- An element that stands for a component has no warning. -/
theorem Decided.warning_eq_none (h : Decided host lookup options e outcome)
    (hcomponent : outcome.resolution.isComponent = true) : outcome.warning = none := by
  rw [h.warning_eq, if_neg]
  rintro ⟨-, -, hplain⟩
  rw [hcomponent] at hplain
  cases hplain

/-! ## What was noted before -/

theorem Overridden.withResolution {resolution noted : Resolution} {left : Element}
    (h : Overridden lookup prefixes e resolution left) :
    Overridden lookup prefixes { e with resolution := noted } resolution
      { left with resolution := noted } := by
  cases h with
  | literal hfirst hne hfound => exact .literal hfirst hne hfound
  | bound hnone hprefixes hpassed hfirst => exact .bound hnone hprefixes hpassed hfirst

theorem not_overridden_withResolution {noted : Resolution}
    (h : ∀ resolution left, ¬Overridden lookup prefixes e resolution left) (resolution : Resolution)
    (left : Element) : ¬Overridden lookup prefixes { e with resolution := noted } resolution left :=
  fun hover => h _ _ hover.withResolution

/-- A resolution that is noted on an element stays on it, and has no other effect. -/
theorem Decided.withResolution (noted : Resolution) (h : Decided host lookup options e outcome) :
    Decided host lookup options { e with resolution := noted }
      { outcome with element := { outcome.element with resolution := noted } } := by
  cases h with
  | noTag htag => exact .noTag htag
  | found htag hcategory hfound => exact .found htag hcategory hfound
  | overridden htag hmissed hover => exact .overridden htag hmissed hover.withResolution
  | builtIn htag hcategory hover => exact .builtIn htag hcategory (not_overridden_withResolution hover)
  | unresolved htag hcategory hmissed hover hwarned =>
    exact .unresolved htag hcategory hmissed (not_overridden_withResolution hover) hwarned

theorem resolve_withResolution (noted : Resolution) :
    resolve host options { e with resolution := noted } =
      { resolve host options e with
        element := { (resolve host options e).element with resolution := noted } } :=
  (decided_resolve.withResolution noted).resolve_eq

end

/-! ## Two runs -/

section

variable {host host' : Host} {lookup small large : Lookup} {options options' : Options} {e : Element}
  {outcome outcome' : Outcome}

/-- Under another host and other options with the same prefixes, the same row of the table applies; only
the warning may be another. -/
theorem Decided.agree (hprefixes : options.bindPrefixes = options'.bindPrefixes)
    (h : Decided host lookup options e outcome) :
    ∃ warning, Decided host' lookup options' e { outcome with warning } := by
  cases h with
  | noTag htag => exact ⟨_, .noTag htag⟩
  | found htag hcategory hfound => exact ⟨_, .found htag hcategory hfound⟩
  | overridden htag hmissed hover => exact ⟨_, .overridden htag hmissed (hprefixes ▸ hover)⟩
  | builtIn htag hcategory hover => exact ⟨_, .builtIn htag hcategory (hprefixes ▸ hover)⟩
  | unresolved htag hcategory hmissed hover hwarned =>
    exact ⟨_, .unresolved htag hcategory hmissed (hprefixes ▸ hover) (warned_unresolvedWarning? _)⟩

/-- A lookup that finds more loses no override. -/
theorem Overridden.mono {prefixes : List String} {resolution : Resolution} {left : Element}
    (hgrow : ∀ id, (small id).isSome → (large id).isSome)
    (h : Overridden small prefixes e resolution left) : Overridden large prefixes e resolution left := by
  cases h with
  | literal hfirst hne hfound => exact .literal hfirst hne (hgrow _ hfound)
  | bound hnone hprefixes hpassed hfirst => exact .bound hnone hprefixes hpassed hfirst

/-- A lookup that finds more loses no component. -/
theorem Decided.isComponent_mono (h : Decided host small options e outcome)
    (h' : Decided host' large options' e outcome')
    (hgrow : ∀ id, (small id).isSome → (large id).isSome)
    (hprefixes : options.bindPrefixes = options'.bindPrefixes)
    (hcomponent : outcome.resolution.isComponent = true) :
    outcome'.resolution.isComponent = true := by
  rw [h.isComponent_iff] at hcomponent
  rw [h'.isComponent_iff, ← hprefixes]
  obtain ⟨htag, ⟨hcategory, hfound⟩ | ⟨resolution, left, hover⟩⟩ := hcomponent
  · exact ⟨htag, Or.inl ⟨hcategory, hgrow _ hfound⟩⟩
  · exact ⟨htag, Or.inr ⟨resolution, left, hover.mono hgrow⟩⟩

/-- With a lookup that finds more, the elements that are still no components keep their warnings, and
the others have none. -/
theorem Decided.warning_mono (h : Decided host small options e outcome)
    (h' : Decided host' large options' e outcome')
    (hgrow : ∀ id, (small id).isSome → (large id).isSome)
    (hprefixes : options.bindPrefixes = options'.bindPrefixes)
    (hwarnings : ∀ tag,
      unresolvedWarning? host options tag = unresolvedWarning? host' options' tag) :
    outcome'.warning = if outcome'.resolution.isComponent then none else outcome.warning := by
  split
  · next hlarge => exact h'.warning_eq_none hlarge
  · next hlarge =>
    have hsmall : ¬outcome.resolution.isComponent = true :=
      fun hcomponent => hlarge (h.isComponent_mono h' hgrow hprefixes hcomponent)
    rw [Bool.not_eq_true] at hlarge hsmall
    rw [h.warning_eq, h'.warning_eq, hlarge, hsmall, hwarnings]

end

end ComponentTags
