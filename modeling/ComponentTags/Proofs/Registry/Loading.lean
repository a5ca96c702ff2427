import ComponentTags.Format.Options
import ComponentTags.Proofs.Json.Faithful
import ComponentTags.Proofs.Registry.Guard

/-!
# What loading keeps

Loading offers the entries of a map to an empty registry, in whatever order the map lists them. The
order is of no consequence, since a map has one entry for a key: what is loaded are the entries whose id
is custom, and all others are refused (`ofEntries_eq`). A registry holds custom ids only, so its own
entries load back to it, from the map as well as from its text.
-/

namespace ComponentTags

open Json FaithfulSource

/-! ## Maps from entries -/

section

variable {α : Type} {entries entries' : List (String × α)}

/-- No two entries give different values for one key. -/
def Compatible (entries : List (String × α)) : Prop :=
  ∀ e ∈ entries, ∀ e' ∈ entries, e.1 = e'.1 → e = e'

theorem Compatible.of_cons {e : String × α} (h : Compatible (e :: entries)) : Compatible entries :=
  fun a ha b hb => h a (List.mem_cons_of_mem e ha) b (List.mem_cons_of_mem e hb)

theorem getElem?_foldl_insert (h : Compatible entries) {d : Dict α} {key : String} {a : α} :
    (entries.foldl (fun d e => d.insert e.1 e.2) d)[key]? = some a ↔
      (key, a) ∈ entries ∨ (∀ e ∈ entries, e.1 ≠ key) ∧ d[key]? = some a := by
  induction entries generalizing d with
  | nil => simp
  | cons e entries ih =>
    obtain ⟨key', b⟩ := e
    rw [List.foldl_cons, ih h.of_cons, List.mem_cons, List.forall_mem_cons]
    dsimp only
    by_cases hkey : key' = key
    · subst hkey
      rw [Std.ExtTreeMap.getElem?_insert_self, Option.some.injEq, Prod.mk.injEq]
      constructor
      · rintro (hmem | ⟨-, rfl⟩)
        · exact Or.inl (Or.inr hmem)
        · exact Or.inl (Or.inl ⟨rfl, rfl⟩)
      · rintro ((⟨-, rfl⟩ | hmem) | ⟨⟨hne, -⟩, -⟩)
        · -- Further entries under the key of the first say the same as it does.
          by_cases hlater : ∀ e ∈ entries, e.1 ≠ key'
          · exact Or.inr ⟨hlater, rfl⟩
          · push Not at hlater
            obtain ⟨e, he, rfl⟩ := hlater
            have hsame := h e (List.mem_cons_of_mem _ he) _ List.mem_cons_self rfl
            exact Or.inl (hsame ▸ he)
        · exact Or.inl hmem
        · exact absurd rfl hne
    · have hother : compare key' key ≠ .eq := fun heq => hkey (Std.LawfulEqCmp.eq_of_compare heq)
      rw [Std.ExtTreeMap.getElem?_insert, if_neg hother, Prod.mk.injEq]
      constructor
      · rintro (hmem | ⟨hlater, hd⟩)
        · exact Or.inl (Or.inr hmem)
        · exact Or.inr ⟨⟨hkey, hlater⟩, hd⟩
      · rintro ((⟨rfl, -⟩ | hmem) | ⟨⟨-, hlater⟩, hd⟩)
        · exact absurd rfl hkey
        · exact Or.inl hmem
        · exact Or.inr ⟨hlater, hd⟩

/-- Compatible entries make the map that has them. -/
theorem Dict.getElem?_ofEntries (h : Compatible entries) {key : String} {a : α} :
    (ofEntries entries)[key]? = some a ↔ (key, a) ∈ entries := by
  rw [show ofEntries entries = entries.foldl (fun d e => d.insert e.1 e.2) ∅ from rfl,
    getElem?_foldl_insert h]
  simp

/-- Compatible or not, the keys of the entries are the keys of the map. -/
theorem Dict.mem_ofEntries_iff {key : String} :
    key ∈ ofEntries entries ↔ ∃ e ∈ entries, e.1 = key := by
  have hinsert : ofEntries entries = (∅ : Dict α).insertMany entries :=
    Std.ExtTreeMap.insertMany_list_eq_foldl.symm
  rw [hinsert, Std.ExtTreeMap.mem_insertMany_list, List.contains_iff_mem, List.mem_map]
  simp only [Std.ExtTreeMap.not_mem_empty, false_or]

theorem Compatible.perm (h : Compatible entries) (hperm : entries'.Perm entries) :
    Compatible entries' :=
  fun a ha b hb => h a (hperm.mem_iff.mp ha) b (hperm.mem_iff.mp hb)

theorem Compatible.filter (h : Compatible entries) (p : String × α → Bool) :
    Compatible (entries.filter p) :=
  fun a ha b hb => h a (List.mem_of_mem_filter ha) b (List.mem_of_mem_filter hb)

/-- The order of compatible entries is of no consequence. -/
theorem Dict.ofEntries_eq_of_perm (h : Compatible entries) (hperm : entries'.Perm entries) :
    ofEntries entries' = ofEntries entries := by
  apply Std.ExtTreeMap.ext_getElem?
  intro key
  apply Option.ext
  intro a
  rw [Dict.getElem?_ofEntries h, Dict.getElem?_ofEntries (h.perm hperm), hperm.mem_iff]

theorem compatible_toList (d : Dict α) : Compatible d.toList := by
  rintro ⟨key, a⟩ ha ⟨key', b⟩ hb heq
  obtain rfl : key = key' := heq
  rw [Std.ExtTreeMap.mem_toList_iff_getElem?_eq_some] at ha hb
  rw [Option.some.inj (ha.symm.trans hb)]

theorem Dict.ofEntries_toList (d : Dict α) : ofEntries d.toList = d := by
  apply Std.ExtTreeMap.ext_getElem?
  intro key
  apply Option.ext
  intro a
  rw [Dict.getElem?_ofEntries (compatible_toList d),
    Std.ExtTreeMap.mem_toList_iff_getElem?_eq_some]

end

namespace Registry

/-! ## Loading -/

/-- The entries that may be registered. -/
def acceptable (entries : List (String × Component)) : List (String × Component) :=
  entries.filter fun e => Category.ofTag e.1 = .custom

/-- The entries that are refused, each with the failure that says so. -/
def refusals (entries : List (String × Component)) : List (String × Failure) :=
  (entries.filter fun e => Category.ofTag e.1 ≠ .custom).map fun e => (e.1, .reservedId e.1)

theorem acceptable_cons_custom {id : String} {component : Component} (hid : Category.ofTag id = .custom)
    (entries : List (String × Component)) :
    acceptable ((id, component) :: entries) = (id, component) :: acceptable entries :=
  List.filter_cons_of_pos (by simpa using hid)

theorem acceptable_cons_builtIn {id : String} {component : Component}
    (hid : Category.ofTag id ≠ .custom) (entries : List (String × Component)) :
    acceptable ((id, component) :: entries) = acceptable entries :=
  List.filter_cons_of_neg (by simpa using hid)

theorem refusals_cons_custom {id : String} {component : Component} (hid : Category.ofTag id = .custom)
    (entries : List (String × Component)) :
    refusals ((id, component) :: entries) = refusals entries :=
  congrArg (List.map _) (List.filter_cons_of_neg (by simpa using hid))

theorem refusals_cons_builtIn {id : String} {component : Component} (hid : Category.ofTag id ≠ .custom)
    (entries : List (String × Component)) :
    refusals ((id, component) :: entries) = (id, .reservedId id) :: refusals entries :=
  congrArg (List.map _) (List.filter_cons_of_pos (by simpa using hid))

/-- What loading has come to after one more entry. -/
def offer (loaded : Registry × List (String × Failure)) (entry : String × Component) :
    Registry × List (String × Failure) :=
  match loaded.1.register entry.1 entry.2 with
  | (.ok _, next) => (next, loaded.2)
  | (.error failure, next) => (next, loaded.2 ++ [(entry.1, failure)])

theorem foldl_offer (entries : List (String × Component)) (d : Dict Component)
    (refused : List (String × Failure)) :
    entries.foldl offer (⟨d⟩, refused) =
      (⟨(acceptable entries).foldl (fun d e => d.insert e.1 e.2) d⟩,
        refused ++ refusals entries) := by
  -- Each entry goes either into the map or onto the refusals, and both are left open.
  induction entries generalizing d refused with
  | nil =>
    rw [show refusals [] = [] from rfl, List.append_nil]
    rfl
  | cons e entries ih =>
    obtain ⟨id, component⟩ := e
    rw [List.foldl_cons]
    unfold offer
    by_cases hid : Category.ofTag id = .custom
    · rw [register_custom hid, acceptable_cons_custom hid, refusals_cons_custom hid,
        List.foldl_cons]
      exact ih _ refused
    · rw [register_builtIn hid, acceptable_cons_builtIn hid, refusals_cons_builtIn hid,
        ← List.singleton_append, ← List.append_assoc]
      exact ih d (refused ++ [(id, .reservedId id)])

/-- Loading takes the entries that may be registered and refuses the others. -/
theorem ofEntries_eq (entries : List (String × Component)) :
    ofEntries entries = (⟨Dict.ofEntries (acceptable entries)⟩, refusals entries) :=
  foldl_offer entries ∅ []

/-- Of a map, in whatever order it lists its entries, loading keeps the ids that are custom. -/
theorem getElem?_ofEntries {m : Dict Component} {entries : List (String × Component)}
    (hentries : entries.Perm m.toList) (id : String) :
    (ofEntries entries).1.components[id]? =
      if Category.ofTag id = .custom then m[id]? else none := by
  have hcompatible : Compatible entries := (compatible_toList m).perm hentries
  rw [ofEntries_eq]
  apply Option.ext
  intro component
  dsimp only
  rw [acceptable, Dict.getElem?_ofEntries (hcompatible.filter _), List.mem_filter, hentries.mem_iff,
    Std.ExtTreeMap.mem_toList_iff_getElem?_eq_some, decide_eq_true_eq]
  split
  · next hid => simp [hid]
  · next hid => simp [hid]

theorem mem_refused {m : Dict Component} {entries : List (String × Component)}
    (hentries : entries.Perm m.toList) {id : String} {failure : Failure} :
    (id, failure) ∈ (ofEntries entries).2 ↔
      id ∈ m ∧ Category.ofTag id ≠ .custom ∧ failure = .reservedId id := by
  have hkeys : (∃ component, (id, component) ∈ entries) ↔ id ∈ m := by
    simp only [hentries.mem_iff, Std.ExtTreeMap.mem_toList_iff_getElem?_eq_some,
      Std.ExtTreeMap.mem_iff_isSome_getElem?, Option.isSome_iff_exists]
  rw [ofEntries_eq, ← hkeys]
  simp only [refusals, List.mem_map, List.mem_filter, decide_eq_true_eq, Prod.mk.injEq, Prod.exists]
  constructor
  · rintro ⟨_, component, ⟨hmem, hid⟩, rfl, rfl⟩
    exact ⟨⟨component, hmem⟩, hid, rfl⟩
  · rintro ⟨⟨component, hmem⟩, hid, rfl⟩
    exact ⟨id, component, ⟨hmem, hid⟩, rfl, rfl⟩

/-- A sound registry loads back from its own entries, in whatever order, and none is refused. -/
theorem Sound.ofEntries_eq_self {r : Registry} (hr : r.Sound) {entries : List (String × Component)}
    (hentries : entries.Perm r.components.toList) : ofEntries entries = (r, []) := by
  have hcustom : ∀ e ∈ entries, Category.ofTag e.1 = .custom := by
    intro e he
    have hmem : r.components[e.1]? = some e.2 :=
      Std.ExtTreeMap.mem_toList_iff_getElem?_eq_some.mp (hentries.mem_iff.mp he)
    exact hr e.1 (Std.ExtTreeMap.mem_iff_isSome_getElem?.mpr (hmem ▸ rfl))
  have haccept : acceptable entries = entries :=
    List.filter_eq_self.mpr fun e he => by simpa using hcustom e he
  have hrefuse : refusals entries = [] := by
    have hnone : (entries.filter fun e => Category.ofTag e.1 ≠ .custom) = [] :=
      List.filter_eq_nil_iff.mpr fun e he => by simpa using hcustom e he
    rw [refusals, hnone, List.map_nil]
  rw [ofEntries_eq, haccept, hrefuse,
    Dict.ofEntries_eq_of_perm (compatible_toList r.components) hentries, Dict.ofEntries_toList]

end Registry

/-! ## Texts -/

theorem Component.takes (c : Component) : Takes Component.read c.toJson c := by
  refine record ⟨some c.name, some c.path⟩ ?_ rfl
  refine .consOf rfl rfl (string c.name) ?_
  refine .consOf rfl rfl (string c.path) ?_
  exact .nil _

namespace Registry

/-- A registry as JSON, in the order its entries are given in. -/
def written (entries : List (String × Component)) : Value :=
  .object (entries.map fun e => (e.1, e.2.toJson))

theorem depth_written (entries : List (String × Component)) : (written entries).depth ≤ 2 :=
  Nat.succ_le_succ (depthOfEntries_le (List.forall_mem_map.mpr fun _ _ => Nat.le_refl 1))

/-- What is written of a sound registry is read back to it, in whatever order its entries are written,
and no id is refused. -/
theorem Sound.takes {r : Registry} (hr : r.Sound) {entries : List (String × Component)}
    (hentries : entries.Perm r.components.toList) :
    Takes Registry.read (written entries) (r, []) := by
  have hmap : Takes (Scan.map Component.read) (written entries) entries := by
    refine Scan.takes_map (List.forall₂_map_left_iff.mpr (List.forall₂_same.mpr fun e _ => ?_))
    exact ⟨rfl, e.2.takes⟩
  have hload : ofEntries (Dict.ofEntries entries).toList = (r, []) := by
    rw [Dict.ofEntries_eq_of_perm (compatible_toList r.components) hentries, Dict.ofEntries_toList]
    exact hr.ofEntries_eq_self (List.Perm.refl _)
  refine ⟨hmap.plain, fun {depth} hdepth after hafter => ?_⟩
  refine (hmap.takesAt hdepth after hafter).bind_reads ?_
  dsimp only
  rw [hload]
  exact Scan.reads_pure _

/-- A registry with a history holds custom ids only. Refusing an id leaves it as it was: every lookup, the
ids and the size. Loading a map, in whatever order it lists its entries, keeps exactly those whose id is
custom and refuses exactly the others. And the registry's own entries load back to it from the map and
from its text, whatever order they are in, with no id refused. -/
theorem Reachable.sound_and_lossless {r : Registry} (hr : r.Reachable) :
    (∀ id ∈ r.components, Category.ofTag id = .custom) ∧
    (∀ id component, (∃ failure, (r.register id component).1 = .error failure) →
      let after := (r.register id component).2
      (∀ spelling, after.lookup spelling = r.lookup spelling) ∧ after.ids = r.ids ∧
        after.size = r.size) ∧
    (∀ (m : Dict Component) entries, entries.Perm m.toList →
      (∀ id, (r.apply (.load entries)).components[id]? =
        if Category.ofTag id = .custom then m[id]? else none) ∧
      ∀ id failure, (id, failure) ∈ (ofEntries entries).2 ↔
        id ∈ m ∧ Category.ofTag id ≠ .custom ∧ failure = .reservedId id) ∧
    ∀ entries, entries.Perm r.components.toList →
      ofEntries entries = (r, []) ∧ Scan.whole Registry.read (written entries).text = .ok (r, []) := by
  refine ⟨hr.sound, ?_, ?_, ?_⟩
  · intro id component hrefused
    rw [register_builtIn (register_eq_error_iff.mp hrefused)]
    exact ⟨fun spelling => rfl, rfl, rfl⟩
  · intro m entries hentries
    exact ⟨getElem?_ofEntries hentries, fun id failure => mem_refused hentries⟩
  · intro entries hentries
    have hdepth := depth_written entries
    exact ⟨hr.sound.ofEntries_eq_self hentries, (hr.sound.takes hentries).whole_eq_ok (by omega)⟩

/-- A load and two registrations, with two ids that are refused. -/
def eventful : List Command := [
  .load [("SLOT", {}), ("my-list", { path := "list.vue" })],
  .register "Div" {},
  .register "myList" { name := "lists \"all\"" }]

theorem eventful_lossless :
    (run eventful).Reachable ∧ (run eventful).ids = ["my-list", "myList"] ∧
      ofEntries (run eventful).components.toList.reverse = (run eventful, []) ∧
      Scan.whole Registry.read (run eventful).toJson.text = .ok (run eventful, []) := by
  have hreachable : (run eventful).Reachable := ⟨eventful, rfl⟩
  obtain ⟨-, -, -, hlossless⟩ := hreachable.sound_and_lossless
  exact ⟨hreachable, by decide +kernel, (hlossless _ (List.reverse_perm _)).1,
    (hlossless _ (List.Perm.refl _)).2⟩

end Registry

end ComponentTags
