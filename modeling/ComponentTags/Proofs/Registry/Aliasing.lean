import ComponentTags.Proofs.Name.KebabCase
import ComponentTags.Proofs.Registry.History

/-!
# Which id answers

Looking up a spelling asks for three ids in turn, and the first of them that is registered answers
(`lookup_eq_answer`). A kebab-case name can be recovered from each of its three ids, for it is their
hyphenated form. So no id answers to two of these names (`lookup_never_aliases`), whatever else is
registered and whichever of the three ids the one and the other are found by.
-/

namespace ComponentTags.Registry

open Name

variable {r : Registry} {spelling id : String}

/-- The id that answers to a spelling: the first one it leads to that is registered. -/
def answer? (r : Registry) (spelling : String) : Option String :=
  [spelling, camelize spelling, capitalize (camelize spelling)].find? r.components.contains

/-- Asking for an id and then for some others is asking for the first of them that there is. -/
theorem getElem?_or_bind_find? (d : Dict Component) (id : String) (ids : List String) :
    (d[id]?).or ((ids.find? d.contains).bind (d[·]?)) =
      ((id :: ids).find? d.contains).bind (d[·]?) := by
  by_cases hid : d.contains id
  · have hsome : d[id]?.isSome := by
      rw [← Std.ExtTreeMap.contains_eq_isSome_getElem?]
      exact hid
    rw [List.find?_cons_of_pos hid, Option.bind_some, Option.or_of_isSome hsome]
  · have hnone : d[id]? = none :=
      Std.ExtTreeMap.getElem?_eq_none_of_contains_eq_false (Bool.eq_false_iff.mpr hid)
    rw [List.find?_cons_of_neg hid, hnone, Option.none_or]

theorem lookup_eq_answer : r.lookup spelling = (r.answer? spelling).bind (r.components[·]?) := by
  unfold lookup answer?
  rw [← getElem?_or_bind_find?, ← getElem?_or_bind_find?, ← getElem?_or_bind_find?]
  simp only [Option.orElse_eq_orElse, Option.orElse_eq_or, List.find?_nil, Option.bind_none, Option.or_none]

theorem leadsTo_of_answer? (h : r.answer? spelling = some id) :
    LeadsTo spelling id ∧ id ∈ r.components := by
  have hregistered : r.components.contains id := List.find?_some h
  have hmem := List.mem_of_find?_eq_some h
  rw [List.mem_cons, List.mem_cons, List.mem_singleton] at hmem
  exact ⟨hmem, Std.ExtTreeMap.mem_iff_contains.mpr hregistered⟩

theorem exists_answer (h : (r.lookup spelling).isSome) :
    ∃ id, r.answer? spelling = some id ∧ r.lookup spelling = r.components[id]? := by
  cases hanswer : r.answer? spelling with
  | none =>
    rw [lookup_eq_answer, hanswer] at h
    cases h
  | some id => exact ⟨id, rfl, by rw [lookup_eq_answer, hanswer, Option.bind_some]⟩

/-- Hyphenating takes back camelizing, and capitalizing after it, on every kebab-case name. So when two such
names are looked up and both are found, two registered ids have answered, and they are not the same. -/
theorem lookup_never_aliases :
    (∀ name : String, IsKebabCase name.toList →
      hyphenate (camelize name) = name ∧ hyphenate (capitalize (camelize name)) = name) ∧
    ∀ (r : Registry) (name other : String), IsKebabCase name.toList → IsKebabCase other.toList →
      name ≠ other → (r.lookup name).isSome → (r.lookup other).isSome →
      ∃ id ∈ r.components, ∃ id' ∈ r.components,
        (r.answer? name = some id ∧ r.lookup name = r.components[id]?) ∧
        (r.answer? other = some id' ∧ r.lookup other = r.components[id']?) ∧ id ≠ id' := by
  refine ⟨fun name => hyphenate_camelize_of_isKebabCase, ?_⟩
  intro r name other hname hother hne hfound hfound'
  obtain ⟨id, hanswer, hlookup⟩ := exists_answer hfound
  obtain ⟨id', hanswer', hlookup'⟩ := exists_answer hfound'
  obtain ⟨hleads, hid⟩ := leadsTo_of_answer? hanswer
  obtain ⟨hleads', hid'⟩ := leadsTo_of_answer? hanswer'
  refine ⟨id, hid, id', hid', ⟨hanswer, hlookup⟩, ⟨hanswer', hlookup'⟩, ?_⟩
  intro hsame
  apply hne
  calc name = hyphenate id := (hyphenate_of_leadsTo hname hleads).symm
    _ = hyphenate id' := by rw [hsame]
    _ = other := hyphenate_of_leadsTo hother hleads'

/-- Two names that differ by a hyphen. Camelizing the one makes a run of capitals of it. -/
theorem lookup_of_capital_run :
    let r := run [.register "ABC" { path := "run.vue" }, .register "aBc" { path := "pair.vue" }]
    IsKebabCase "a-b-c".toList ∧ IsKebabCase "a-bc".toList ∧
      hyphenate (capitalize (camelize "a-b-c")) = "a-b-c" ∧
      ∃ id id', r.answer? "a-b-c" = some id ∧ r.answer? "a-bc" = some id' ∧ id ≠ id' ∧
        r.components[id]? = some { path := "run.vue" } ∧
        r.components[id']? = some { path := "pair.vue" } := by
  intro r
  have ha : IsSegment ['a'] := ⟨'a', [], rfl, rfl, nofun⟩
  have hb : IsSegment ['b'] := ⟨'b', [], rfl, rfl, nofun⟩
  have hc : IsSegment ['c'] := ⟨'c', [], rfl, rfl, nofun⟩
  have hbc : IsSegment ['b', 'c'] := ⟨'b', ['c'], rfl, rfl, List.forall_mem_singleton.mpr (Or.inl rfl)⟩
  have hrun : IsKebabCase "a-b-c".toList := .cons ha (.cons hb (.segment hc))
  have hpair : IsKebabCase "a-bc".toList := .cons ha (.segment hbc)
  have hfound : r.lookup "a-b-c" = some { path := "run.vue" } := by decide +kernel
  have hfound' : r.lookup "a-bc" = some { path := "pair.vue" } := by decide +kernel
  obtain ⟨hback, hdistinct⟩ := lookup_never_aliases
  obtain ⟨id, -, id', -, ⟨hanswer, hlookup⟩, ⟨hanswer', hlookup'⟩, hne⟩ :=
    hdistinct r "a-b-c" "a-bc" hrun hpair (by decide) (by rw [hfound]; rfl) (by rw [hfound']; rfl)
  exact ⟨hrun, hpair, (hback _ hrun).2, id, id', hanswer, hanswer', hne, hlookup ▸ hfound,
    hlookup' ▸ hfound'⟩

end ComponentTags.Registry
