import ComponentTags.Proofs.Registry.History
import ComponentTags.Proofs.Resolve.DecisionTable

/-!
# Reaching components by their hyphenated names

A component whose id is an ASCII name without hyphens can always be written in its hyphenated form: such
a tag is custom and found, whatever else is registered, so the element stands for it and nothing about it
changes.
-/

namespace ComponentTags

open Text

/-- What the hyphenated spelling of an ASCII id without hyphens leads to. -/
theorem Name.leadsTo_hyphenate {id : String} (hascii : IsAscii id.toList)
    (hhyphen : '-' ∉ id.toList) : Name.LeadsTo (Name.hyphenate id) id :=
  (Name.leadsTo_hyphenate_iff hascii).mpr (Or.inr (Name.camelize_of_hyphen_not_mem hhyphen))

/-- An element whose tag leads to a registered id stands for it as it is. -/
theorem resolve_of_lookup {host : Host} {options : Options} {e : Element}
    (hr : options.components.Sound) (htag : lowercase e.tag ≠ "")
    (hfound : (options.components.lookup (lowercase e.tag)).isSome) :
    resolve host options e = ⟨.static (lowercase e.tag), e, none⟩ :=
  Decided.resolveWith_eq (.found htag (hr.category_of_lookup hfound) hfound)

/-- A registered ASCII id without hyphens is reached by its hyphenated spelling: that is a custom tag,
it is found, and every element with this tag, whatever attributes it has, resolves to it unchanged and
without a warning. -/
theorem resolve_hyphenate {host : Host} {options : Options} (hr : options.components.Reachable)
    {id : String} (hid : id ∈ options.components.components) (hne : id ≠ "")
    (hascii : IsAscii id.toList) (hhyphen : '-' ∉ id.toList) {e : Element}
    (he : lowercase e.tag = Name.hyphenate id) :
    Category.ofTag (Name.hyphenate id) = .custom ∧
      (options.components.lookup (Name.hyphenate id)).isSome ∧
      resolve host options e = ⟨.static (Name.hyphenate id), e, none⟩ := by
  have hcustom : Category.ofTag (Name.hyphenate id) = .custom :=
    Category.ofTag_hyphenate (hr.sound id hid)
  have hfound : (options.components.lookup (Name.hyphenate id)).isSome :=
    Registry.lookup_isSome_iff.mpr ⟨id, hid, Name.leadsTo_hyphenate hascii hhyphen⟩
  have htag : Name.hyphenate id ≠ "" := fun h => hne (Name.hyphenate_eq_empty_iff.mp h)
  refine ⟨hcustom, hfound, ?_⟩
  rw [← he] at hfound htag ⊢
  exact resolve_of_lookup hr.sound htag hfound

/-- A run of capitals with a digit and a dot, beside an id that already has the hyphenated form of
another, on an element with a literal `is`. -/
theorem resolve_hyphenated_capitals :
    Name.hyphenate "XMLHttp2.View" = "x-m-l-http2.-view" ∧
      resolve .browser
        (.ofRegistry (Registry.run [.register "XMLHttp2.View" {}, .register "x-m-l" {}]))
        { tag := "X-M-L-Http2.-View", attributes := [⟨"is", "x-m-l", {}⟩] } =
      ⟨.static (Name.hyphenate "XMLHttp2.View"),
        { tag := "X-M-L-Http2.-View", attributes := [⟨"is", "x-m-l", {}⟩] }, none⟩ :=
  ⟨by decide +kernel, (@resolve_hyphenate .browser
    (.ofRegistry (Registry.run [.register "XMLHttp2.View" {}, .register "x-m-l" {}])) ⟨_, rfl⟩
    "XMLHttp2.View" (by decide +kernel) (by decide) (by decide +kernel) (by decide +kernel)
    { tag := "X-M-L-Http2.-View", attributes := [⟨"is", "x-m-l", {}⟩] } (by decide +kernel)).2.2⟩

end ComponentTags
