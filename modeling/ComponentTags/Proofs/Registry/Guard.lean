import ComponentTags.Proofs.Registry.History
import ComponentTags.Proofs.Resolve.DecisionTable

/-!
# Where the registry and the resolver draw the line

Two tests keep the built-in tags apart from the components. Registering folds the id as it is written,
resolving lowercases the tag before it is classified, and these are different mappings: folding goes
character by character and knows the long s and the Kelvin sign, lowercasing may look at the context and
may make two characters of one. They agree on every text (`Category.ofTag_lowercase`), so an id is refused
exactly if a tag spelled like it would never be looked up (`register_refused_iff`).
-/

namespace ComponentTags

open Text

/-- A table of ASCII words does not see whether a tag was lowercased first. -/
theorem any_foldsTo_lowercase {words : List String} (hwords : ∀ word ∈ words, IsAscii word.toList)
    (tag : String) : words.any (foldsTo (lowercase tag)) = words.any (foldsTo tag) := by
  rw [Bool.eq_iff_iff, List.any_eq_true, List.any_eq_true]
  apply exists_congr
  intro word
  apply and_congr_right
  intro hword
  rw [foldsTo_lowercase (hwords word hword)]

/-- A tag has the category that it has in lower case. -/
theorem Category.ofTag_lowercase (tag : String) : ofTag (lowercase tag) = ofTag tag := by
  have hnative : isNativeTag (lowercase tag) = isNativeTag tag :=
    any_foldsTo_lowercase (fun word h => (builtInTags_plain word (List.mem_append_left _ h)).1) tag
  have hreserved : isReservedTag (lowercase tag) = isReservedTag tag :=
    any_foldsTo_lowercase (fun word h => (builtInTags_plain word (List.mem_append_right _ h)).1) tag
  rw [ofTag, ofTag, hnative, hreserved]

example : Category.ofTag "ſELECT" = .native ∧ lowercase "ſELECT" = "ſelect" ∧
    Category.ofTag "İmg" = .custom ∧ lowercase "İmg" = "i\u0307mg" := by
  decide +kernel

/-- Registering fails for native and reserved tag names, and for nothing else. -/
theorem Registry.register_eq_error_iff {r : Registry} {id : String} {component : Component} :
    (∃ failure, (r.register id component).1 = .error failure) ↔ Category.ofTag id ≠ .custom := by
  constructor
  · rintro ⟨failure, h⟩ hcustom
    rw [register_custom hcustom] at h
    cases h
  · intro hbuiltIn
    exact ⟨.reservedId id, by rw [register_builtIn hbuiltIn]⟩

/-- Elements with this tag are never looked up by it: whatever a lookup finds, one without an override
stays plain and as it is, without a warning. -/
def NeverLookedUp (tag : String) : Prop :=
  ∀ (host : Host) (lookup : Lookup) (options : Options) (e : Element), e.tag = tag →
    (∀ resolution left, ¬Overridden lookup options.bindPrefixes e resolution left) →
    resolveWith host lookup options e = ⟨.plain, e, none⟩

/-- Besides the built-in tags only the empty one is never looked up. -/
theorem neverLookedUp_iff {tag : String} :
    NeverLookedUp tag ↔ tag = "" ∨ Category.ofTag (lowercase tag) ≠ .custom := by
  constructor
  · intro h
    by_contra hcon
    simp only [not_or, not_not] at hcon
    obtain ⟨hne, hcustom⟩ := hcon
    have hplain : resolveWith .browser (fun _ => some {}) {} { tag } = ⟨.plain, { tag }, none⟩ :=
      h _ _ _ _ rfl (not_overridden_of_attributes_eq_nil rfl)
    have hfound : Decided .browser (fun _ => some {}) {} { tag }
        ⟨.static (lowercase tag), { tag }, none⟩ :=
      .found (fun hempty => hne (lowercase_eq_empty_iff.mp hempty)) hcustom rfl
    rw [hfound.resolveWith_eq] at hplain
    cases hplain
  · rintro h host lookup options e rfl hover
    by_cases htag : lowercase e.tag = ""
    · exact Decided.resolveWith_eq (.noTag htag)
    · rcases h with hempty | hbuiltIn
      · exact absurd (lowercase_eq_empty_iff.mpr hempty) htag
      · exact Decided.resolveWith_eq (.builtIn htag hbuiltIn hover)

/-- An id is refused exactly if its lowercase form, which is what the resolver classifies, is a native or a
reserved tag. A text and its lowercase form always have the same category. So the tags that are never
looked up are those an id may not have, and the empty one, which no lookup is asked for either. -/
theorem register_refused_iff (r : Registry) (id : String) (component : Component) :
    ((∃ failure, (r.register id component).1 = .error failure) ↔
      Category.ofTag (lowercase id) = .native ∨ Category.ofTag (lowercase id) = .reserved) ∧
    Category.ofTag id = Category.ofTag (lowercase id) ∧
    (NeverLookedUp id ↔ id = "" ∨ ∃ failure, (r.register id component).1 = .error failure) := by
  have hrefused : (∃ failure, (r.register id component).1 = .error failure) ↔
      Category.ofTag (lowercase id) ≠ .custom := by
    rw [Registry.register_eq_error_iff, Category.ofTag_lowercase]
  refine ⟨?_, (Category.ofTag_lowercase id).symm, ?_⟩
  · rw [hrefused]
    cases Category.ofTag (lowercase id) <;> simp
  · rw [neverLookedUp_iff, hrefused]

end ComponentTags
