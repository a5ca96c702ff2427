import ComponentTags.Proofs.Registry.Loading

/-!
# The spellings a registry suggests

Each id of a registry puts one entry into its name map: what the id becomes without hyphens and capitals,
with its hyphenated spelling. Two ids may have one key. As long as their spellings do not differ then, the
map holds exactly these entries (`getElem?_namesOf`), in whatever order the ids are listed
(`namesOf_eq_of_perm`). Where they do differ, the id that is listed last has the say, so the map depends on
the order (`unambiguous_iff_forall_perm`). Either way the keys are those of the ids, no key has a hyphen,
and hyphenating changes none of the spellings (`nameMap_of_any_order`).
-/

namespace ComponentTags

open Text

/-! ## Keys -/

/-- No hyphen is left in a squashed id. -/
theorem Name.hyphen_not_mem_squash (id : String) : '-' ∉ (Name.squash id).toList := by
  intro h
  rw [Name.squash, lowercase, String.toList_ofList] at h
  have hmem := hyphen_mem_of_mem_lowerFrom h
  simp at hmem

namespace Registry

/-! ## Entries -/

variable {ids ids' : List String} {key spelling : String}

/-- Ids that lose their difference without hyphens and capitals are spelled alike with hyphens. -/
def Unambiguous (ids : List String) : Prop :=
  ∀ id ∈ ids, ∀ other ∈ ids, Name.squash id = Name.squash other → Name.hyphenate id = Name.hyphenate other

instance (ids : List String) : Decidable (Unambiguous ids) :=
  inferInstanceAs (Decidable (∀ id ∈ ids, ∀ other ∈ ids,
    Name.squash id = Name.squash other → Name.hyphenate id = Name.hyphenate other))

/-- What the ids put into the name map. -/
def nameEntries (ids : List String) : List (String × String) :=
  ids.map fun id => (Name.squash id, Name.hyphenate id)

theorem namesOf_eq_ofEntries (ids : List String) : namesOf ids = Dict.ofEntries (nameEntries ids) := by
  rw [namesOf, Dict.ofEntries, nameEntries, List.foldl_map]

theorem Unambiguous.compatible (hids : Unambiguous ids) : Compatible (nameEntries ids) := by
  intro e he e' he' hkey
  obtain ⟨id, hid, rfl⟩ := List.mem_map.mp he
  obtain ⟨other, hother, rfl⟩ := List.mem_map.mp he'
  exact Prod.ext hkey (hids id hid other hother hkey)

/-- Unambiguous ids are suggested under their keys, and nothing else is. -/
theorem getElem?_namesOf (hids : Unambiguous ids) :
    (namesOf ids)[key]? = some spelling ↔
      ∃ id ∈ ids, Name.squash id = key ∧ Name.hyphenate id = spelling := by
  rw [namesOf_eq_ofEntries, Dict.getElem?_ofEntries hids.compatible, nameEntries, List.mem_map]
  simp only [Prod.mk.injEq]

/-- The suggestions of unambiguous ids do not depend on the order in which the ids are listed. -/
theorem namesOf_eq_of_perm (hids : Unambiguous ids) (hperm : ids'.Perm ids) :
    namesOf ids' = namesOf ids := by
  have hentries : (nameEntries ids').Perm (nameEntries ids) := hperm.map _
  rw [namesOf_eq_ofEntries, namesOf_eq_ofEntries, Dict.ofEntries_eq_of_perm hids.compatible hentries]

/-! ## Order -/

/-- The keys are those of the ids, whichever of them has the say. -/
theorem mem_namesOf_iff : key ∈ namesOf ids ↔ ∃ id ∈ ids, Name.squash id = key := by
  rw [namesOf_eq_ofEntries, Dict.mem_ofEntries_iff, nameEntries]
  simp only [List.mem_map, exists_exists_and_eq_and]

/-- Among ids with one key, the one that is listed last has the say. -/
theorem getElem?_namesOf_concat (front : List String) (id : String) :
    (namesOf (front ++ [id]))[Name.squash id]? = some (Name.hyphenate id) := by
  rw [namesOf, List.foldl_append]
  exact Std.ExtTreeMap.getElem?_insert_self

/-- Ids are unambiguous exactly if each of them is suggested under its key. -/
theorem unambiguous_iff_forall_getElem? :
    Unambiguous ids ↔ ∀ id ∈ ids, (namesOf ids)[Name.squash id]? = some (Name.hyphenate id) := by
  constructor
  · intro hids id hid
    exact (getElem?_namesOf hids).mpr ⟨id, hid, rfl, rfl⟩
  · intro h id hid other hother hkey
    have hsuggested := h other hother
    rw [← hkey, h id hid] at hsuggested
    exact Option.some.inj hsuggested

/-- Ids are unambiguous exactly if the order in which they are listed is of no consequence. -/
theorem unambiguous_iff_forall_perm :
    Unambiguous ids ↔ ∀ first second : List String, first.Perm ids → second.Perm ids →
      namesOf first = namesOf second := by
  constructor
  · intro hids first second hfirst hsecond
    rw [namesOf_eq_of_perm hids hfirst, namesOf_eq_of_perm hids hsecond]
  · intro h
    -- any id may be listed last, and then it has the say
    refine unambiguous_iff_forall_getElem?.mpr fun id hid => ?_
    have hlast : (ids.erase id ++ [id]).Perm ids :=
      (List.perm_append_singleton id _).trans (List.perm_cons_erase hid).symm
    rw [h ids _ (List.Perm.refl ids) hlast]
    exact getElem?_namesOf_concat _ id

/-- The name map does not depend on the order in which the ids are enumerated exactly if no two ids that
become the same without hyphens and capitals are hyphenated differently, and exactly then it maps what each
id becomes to the hyphenated id. In every order and for all ids, its keys are what the ids become, no key
has a hyphen, and every spelling in it is its own hyphenated form. -/
theorem nameMap_of_any_order (r : Registry) :
    (Unambiguous r.ids ↔ ∀ first second : List String, first.Perm r.ids → second.Perm r.ids →
      namesOf first = namesOf second) ∧
    (Unambiguous r.ids ↔
      ∀ id ∈ r.components, r.nameMap[Name.squash id]? = some (Name.hyphenate id)) ∧
    ∀ order : List String, order.Perm r.ids →
      (∀ key, key ∈ namesOf order ↔ ∃ id ∈ r.components, Name.squash id = key) ∧
      (∀ key ∈ namesOf order, '-' ∉ key.toList) ∧
      ∀ key spelling : String, (namesOf order)[key]? = some spelling →
        Name.hyphenate spelling = spelling := by
  refine ⟨unambiguous_iff_forall_perm, ?_, fun order horder => ⟨?_, ?_, ?_⟩⟩
  · rw [unambiguous_iff_forall_getElem?, nameMap_eq_namesOf]
    simp only [mem_ids]
  · intro key
    simp only [mem_namesOf_iff, horder.mem_iff, mem_ids]
  · intro key hkey
    obtain ⟨id, -, rfl⟩ := mem_namesOf_iff.mp hkey
    exact Name.hyphen_not_mem_squash id
  · intro key spelling hspelling
    obtain ⟨id, -, -, rfl⟩ := exists_of_namesOf hspelling
    exact Name.hyphenate_hyphenate id

/-- Two ids with one key are spelled alike in the first registry and not in the second. -/
theorem nameMap_of_shared_keys :
    let r := run [.register "MyWidget" {}, .register "my-widget" {}, .register "nav-bar" {}]
    let other := run [.register "MyWidget" {}, .register "mywidget" {}]
    Unambiguous r.ids ∧ r.nameMap["mywidget"]? = some "my-widget" ∧
      namesOf ["my-widget", "nav-bar", "MyWidget"] = namesOf ["nav-bar", "MyWidget", "my-widget"] ∧
      ¬∀ first second : List String, first.Perm other.ids → second.Perm other.ids →
        namesOf first = namesOf second := by
  intro r other
  have hids : Unambiguous r.ids := by decide +kernel
  have hother : ¬Unambiguous other.ids := by decide +kernel
  obtain ⟨horder, hnames, -⟩ := nameMap_of_any_order r
  have hname : r.nameMap[Name.squash "MyWidget"]? = some (Name.hyphenate "MyWidget") :=
    hnames.mp hids "MyWidget" (by decide +kernel)
  rw [show Name.squash "MyWidget" = "mywidget" by decide +kernel,
    show Name.hyphenate "MyWidget" = "my-widget" by decide +kernel] at hname
  refine ⟨hids, hname, ?_, mt (nameMap_of_any_order other).1.mpr hother⟩
  exact horder.mp hids _ _ (by decide +kernel) (by decide +kernel)

end Registry

end ComponentTags
