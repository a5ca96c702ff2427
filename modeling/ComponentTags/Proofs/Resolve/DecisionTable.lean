import ComponentTags.Resolve

/-!
# The decision table

What resolving makes of an element, row by row: `Overridden` says what the `is` override gives,
`Warned` which warning an unresolved tag deserves, and `Decided` puts them together. The relations speak of
attribute lists only and know no shortcut for elements without attributes.

* `override?_eq_some_iff`, `override?_eq_none_iff`: the override, and when there is none;
* `decided_resolveWith`: resolving follows the table, which other modules take cases on;
* `Decided.resolveWith_eq`: and the table leaves no choice.
-/

namespace ComponentTags

/-! ## Attributes -/

/-- The first attribute of a name. -/
def FirstNamed (name : String) (attributes : List Attribute) (a : Attribute) : Prop :=
  ∃ front back, attributes = front ++ a :: back ∧ a.name = name ∧ ∀ b ∈ front, b.name ≠ name

theorem FirstNamed.mem {name : String} {attributes : List Attribute} {a : Attribute}
    (h : FirstNamed name attributes a) : a ∈ attributes := by
  obtain ⟨front, back, rfl, -, -⟩ := h
  exact List.mem_append_right _ List.mem_cons_self

theorem FirstNamed.name_eq {name : String} {attributes : List Attribute} {a : Attribute}
    (h : FirstNamed name attributes a) : a.name = name := by
  obtain ⟨front, back, -, hname, -⟩ := h
  exact hname

namespace Element

theorem attribute?_eq_some_iff {e : Element} {name value : String} :
    e.attribute? name = some value ↔ ∃ a, FirstNamed name e.attributes a ∧ a.value = value := by
  simp only [attribute?, Option.map_eq_some_iff, List.find?_eq_some_iff_append, beq_iff_eq,
    Bool.not_eq_true', beq_eq_false_iff_ne, FirstNamed]
  constructor
  · rintro ⟨a, ⟨hname, front, back, heq, hfront⟩, hvalue⟩
    exact ⟨a, ⟨front, back, heq, hname, hfront⟩, hvalue⟩
  · rintro ⟨a, ⟨front, back, heq, hname, hfront⟩, hvalue⟩
    exact ⟨a, ⟨hname, front, back, heq, hfront⟩, hvalue⟩

theorem attribute?_eq_none_iff {e : Element} {name : String} :
    e.attribute? name = none ↔ ∀ a ∈ e.attributes, a.name ≠ name := by
  simp [attribute?]

theorem boundAttribute?_eq_some_iff {e : Element} {prefixes : List String} {name value : String} :
    e.boundAttribute? prefixes name = some value ↔
      ∃ passed front others, prefixes = passed ++ front :: others ∧
        (∀ q ∈ passed, ∀ a ∈ e.attributes, a.name ≠ q ++ name) ∧
        ∃ a, FirstNamed (front ++ name) e.attributes a ∧ a.value = value := by
  simp only [boundAttribute?, List.findSome?_eq_some_iff, attribute?_eq_some_iff,
    attribute?_eq_none_iff]
  constructor
  · rintro ⟨passed, front, others, heq, hfirst, hpassed⟩
    exact ⟨passed, front, others, heq, hpassed, hfirst⟩
  · rintro ⟨passed, front, others, heq, hpassed, hfirst⟩
    exact ⟨passed, front, others, heq, hfirst, hpassed⟩

end Element

section

variable {host : Host} {lookup : Lookup} {options : Options} {prefixes : List String} {e : Element}

/-! ## The override -/

/-- What the `is` override makes of an element: a resolution, and the element as it is left. -/
inductive Overridden (lookup : Lookup) (prefixes : List String) (e : Element) :
    Resolution → Element → Prop where
  /-- The first literal `is` names a component: all of them are removed. -/
  | literal {a : Attribute} : FirstNamed "is" e.attributes a → a.value ≠ "" →
      (lookup a.value).isSome →
      Overridden lookup prefixes e (.static a.value)
        { e with attributes := e.attributes.filter (·.name != "is") }
  /-- There is no literal `is`: the earliest prefix with a bound one decides. -/
  | bound {passed others : List String} {front : String} {a : Attribute} :
      (∀ b ∈ e.attributes, b.name ≠ "is") → prefixes = passed ++ front :: others →
      (∀ q ∈ passed, ∀ b ∈ e.attributes, b.name ≠ q ++ "is") →
      FirstNamed (front ++ "is") e.attributes a →
      Overridden lookup prefixes e (.dynamic a.value) e

theorem overridden_of_override? {resolution : Resolution} {left : Element}
    (h : override? lookup prefixes e = some (resolution, left)) :
    Overridden lookup prefixes e resolution left := by
  unfold override? overrideName at h
  split at h
  · next id hid =>
    -- a literal `is` hides the bound one, whether it is found or not
    obtain ⟨a, hfirst, rfl⟩ := Element.attribute?_eq_some_iff.mp hid
    split at h
    · next hfound =>
      simp only [Bool.and_eq_true, Bool.not_eq_true', String.isEmpty_eq_false_iff] at hfound
      cases h
      exact .literal hfirst hfound.1 hfound.2
    · cases h
  · next hnone =>
    obtain ⟨value, hvalue, heq⟩ := Option.map_eq_some_iff.mp h
    obtain ⟨passed, front, others, hprefixes, hpassed, a, hfirst, rfl⟩ :=
      Element.boundAttribute?_eq_some_iff.mp hvalue
    cases heq
    exact .bound (Element.attribute?_eq_none_iff.mp hnone) hprefixes hpassed hfirst

theorem Overridden.override?_eq {resolution : Resolution} {left : Element}
    (h : Overridden lookup prefixes e resolution left) :
    override? lookup prefixes e = some (resolution, left) := by
  cases h with
  | @literal a hfirst hne hfound =>
    have hliteral : e.attribute? overrideName = some a.value :=
      Element.attribute?_eq_some_iff.mpr ⟨a, hfirst, rfl⟩
    have hcond : (!a.value.isEmpty && (lookup a.value).isSome) = true := by
      simp [hne, hfound]
    simp only [override?, hliteral, hcond, if_true]
    rfl
  | @bound passed others front a hnone hprefixes hpassed hfirst =>
    have hliteral : e.attribute? overrideName = none := Element.attribute?_eq_none_iff.mpr hnone
    have hbound : e.boundAttribute? prefixes overrideName = some a.value :=
      Element.boundAttribute?_eq_some_iff.mpr
        ⟨passed, front, others, hprefixes, hpassed, a, hfirst, rfl⟩
    simp only [override?, hliteral, hbound, Option.map_some]

theorem override?_eq_some_iff {resolution : Resolution} {left : Element} :
    override? lookup prefixes e = some (resolution, left) ↔
      Overridden lookup prefixes e resolution left :=
  ⟨overridden_of_override?, Overridden.override?_eq⟩

theorem override?_eq_none_iff :
    override? lookup prefixes e = none ↔
      ∀ resolution left, ¬Overridden lookup prefixes e resolution left := by
  simp only [Option.eq_none_iff_forall_ne_some, Prod.forall, ne_eq, override?_eq_some_iff]

theorem not_overridden_of_attributes_eq_nil (h : e.attributes = []) (resolution : Resolution)
    (left : Element) : ¬Overridden lookup prefixes e resolution left := by
  intro hover
  cases hover with
  | literal hfirst =>
    obtain ⟨front, back, heq, -⟩ := hfirst
    simp [h] at heq
  | bound _ _ _ hfirst =>
    obtain ⟨front, back, heq, -⟩ := hfirst
    simp [h] at heq

/-- An element without attributes has no override, so asking only those with attributes loses
nothing. -/
theorem ite_hasAttributes :
    (if e.hasAttributes then override? lookup prefixes e else none) =
      override? lookup prefixes e := by
  split
  · rfl
  · next h =>
    have hnil : e.attributes = [] := by simpa [Element.hasAttributes] using h
    symm
    rw [override?_eq_none_iff]
    exact not_overridden_of_attributes_eq_nil hnil

/-! ## Warnings -/

/-- The warning that an unresolved custom tag gives rise to, if any. -/
inductive Warned (host : Host) (options : Options) (tag : String) : Option Warning → Prop where
  | silent : options.diagnostics = false → Warned host options tag none
  | misCased {names : Dict String} {expected : String} : options.diagnostics = true →
      options.nameMap = some names → names[tag]? = some expected →
      Warned host options tag (some (.misCased tag expected))
  | unknown : options.diagnostics = true →
      (∀ names, options.nameMap = some names → names[tag]? = none) → host.isUnknown tag = true →
      Warned host options tag (some (.unknown tag))
  | known : options.diagnostics = true →
      (∀ names, options.nameMap = some names → names[tag]? = none) → host.isUnknown tag = false →
      Warned host options tag none

theorem nameMap_bind_eq_none_iff {tag : String} :
    options.nameMap.bind (·[tag]?) = none ↔
      ∀ names, options.nameMap = some names → names[tag]? = none :=
  Option.bind_eq_none_iff

theorem warned_unresolvedWarning? (tag : String) :
    Warned host options tag (unresolvedWarning? host options tag) := by
  unfold unresolvedWarning?
  by_cases hdiag : options.diagnostics = true
  · rw [if_pos hdiag]
    split
    · next expected h =>
      obtain ⟨names, hnames, hexpected⟩ := Option.bind_eq_some_iff.mp h
      exact .misCased hdiag hnames hexpected
    · next h =>
      by_cases hunknown : host.isUnknown tag = true
      · rw [if_pos hunknown]
        exact .unknown hdiag (nameMap_bind_eq_none_iff.mp h) hunknown
      · rw [if_neg hunknown]
        exact .known hdiag (nameMap_bind_eq_none_iff.mp h) (Bool.eq_false_iff.mpr hunknown)
  · rw [if_neg hdiag]
    exact .silent (Bool.eq_false_iff.mpr hdiag)

theorem Warned.unresolvedWarning?_eq {tag : String} {warning : Option Warning}
    (h : Warned host options tag warning) : unresolvedWarning? host options tag = warning := by
  unfold unresolvedWarning?
  cases h with
  | silent hdiag => rw [if_neg (by simp [hdiag])]
  | misCased hdiag hnames hexpected => simp only [hdiag, hnames, Option.bind_some, hexpected, if_true]
  | unknown hdiag hnames hunknown =>
    simp only [hdiag, nameMap_bind_eq_none_iff.mpr hnames, hunknown, if_true]
  | known hdiag hnames hknown =>
    simp only [hdiag, nameMap_bind_eq_none_iff.mpr hnames, hknown, if_true, Bool.false_eq_true,
      if_false]

/-! ## The table -/

/-- The rows of the table. The tag is taken in lower case throughout. -/
inductive Decided (host : Host) (lookup : Lookup) (options : Options) (e : Element) :
    Outcome → Prop where
  | noTag : Text.lowercase e.tag = "" → Decided host lookup options e ⟨.plain, e, none⟩
  /-- A custom tag that is found. -/
  | found : Text.lowercase e.tag ≠ "" → Category.ofTag (Text.lowercase e.tag) = .custom →
      (lookup (Text.lowercase e.tag)).isSome →
      Decided host lookup options e ⟨.static (Text.lowercase e.tag), e, none⟩
  /-- Any other tag with an override. -/
  | overridden {resolution : Resolution} {left : Element} : Text.lowercase e.tag ≠ "" →
      (Category.ofTag (Text.lowercase e.tag) = .custom → lookup (Text.lowercase e.tag) = none) →
      Overridden lookup options.bindPrefixes e resolution left →
      Decided host lookup options e ⟨resolution, left, none⟩
  /-- A native or reserved tag without one. -/
  | builtIn : Text.lowercase e.tag ≠ "" → Category.ofTag (Text.lowercase e.tag) ≠ .custom →
      (∀ resolution left, ¬Overridden lookup options.bindPrefixes e resolution left) →
      Decided host lookup options e ⟨.plain, e, none⟩
  /-- A custom tag that is not found and has none. -/
  | unresolved {warning : Option Warning} : Text.lowercase e.tag ≠ "" →
      Category.ofTag (Text.lowercase e.tag) = .custom → lookup (Text.lowercase e.tag) = none →
      (∀ resolution left, ¬Overridden lookup options.bindPrefixes e resolution left) →
      Warned host options (Text.lowercase e.tag) warning →
      Decided host lookup options e ⟨.plain, e, warning⟩

/-- Resolving follows the table. -/
theorem decided_resolveWith :
    Decided host lookup options e (resolveWith host lookup options e) := by
  unfold resolveWith
  rw [ite_hasAttributes]
  dsimp only
  split
  · next h => exact .noTag (String.isEmpty_iff.mp h)
  next h =>
  have htag : Text.lowercase e.tag ≠ "" := fun hempty => h (String.isEmpty_iff.mpr hempty)
  split
  · next hcategory =>
    split
    · next hfound => exact .found htag hcategory hfound
    next hfound =>
    have hnone : lookup (Text.lowercase e.tag) = none := by simpa using hfound
    split
    · next hover => exact .overridden htag (fun _ => hnone) (overridden_of_override? hover)
    · next hover =>
      exact .unresolved htag hcategory hnone (override?_eq_none_iff.mp hover)
        (warned_unresolvedWarning? _)
  -- native and reserved tags go the same way
  all_goals
    next hcategory =>
    have hbuiltIn : Category.ofTag (Text.lowercase e.tag) ≠ .custom := by simp [hcategory]
    split
    · next hover =>
      exact .overridden htag (fun hcustom => absurd hcustom hbuiltIn) (overridden_of_override? hover)
    · next hover => exact .builtIn htag hbuiltIn (override?_eq_none_iff.mp hover)

/-- Each row says what resolving gives. -/
theorem Decided.resolveWith_eq {outcome : Outcome} (h : Decided host lookup options e outcome) :
    resolveWith host lookup options e = outcome := by
  unfold resolveWith
  rw [ite_hasAttributes]
  dsimp only
  cases h with
  | noTag htag => rw [if_pos (String.isEmpty_iff.mpr htag)]
  | found htag hcategory hfound =>
    rw [if_neg (by simpa using htag), hcategory]
    simp only [hfound, if_true]
  | overridden htag hmissed hover =>
    rw [if_neg (by simpa using htag), hover.override?_eq]
    cases hcategory : Category.ofTag (Text.lowercase e.tag) with
    | custom => simp [hmissed hcategory]
    | native => rfl
    | reserved => rfl
  | builtIn htag hcategory hover =>
    rw [if_neg (by simpa using htag), override?_eq_none_iff.mpr hover]
    cases hbuiltIn : Category.ofTag (Text.lowercase e.tag) with
    | custom => exact absurd hbuiltIn hcategory
    | native => rfl
    | reserved => rfl
  | unresolved htag hcategory hmissed hover hwarned =>
    rw [if_neg (by simpa using htag), hcategory, override?_eq_none_iff.mpr hover,
      hwarned.unresolvedWarning?_eq]
    simp [hmissed]

/-- For every host, lookup, options and element, resolving gives exactly the outcome of the decision
table: the resolution, the element as it is left, and the warning. -/
theorem resolveWith_eq_iff_decided {outcome : Outcome} :
    resolveWith host lookup options e = outcome ↔ Decided host lookup options e outcome := by
  constructor
  · rintro rfl
    exact decided_resolveWith
  · exact Decided.resolveWith_eq

end

end ComponentTags
