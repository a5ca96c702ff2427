import ComponentTags.Registry
import ComponentTags.Proofs.Name.Spelling

/-!
# What a registry can hold, and what it is found by

A registry starts empty and goes through registrations, refused ones included, and loads of arbitrary
entries. Whatever it went through, each of its ids is outside the native and reserved tables
(`Reachable.sound`). Looking a spelling up succeeds exactly if an id it leads to is registered
(`lookup_isSome_iff`), so a native or reserved tag name is never found (`Sound.category_of_lookup`):
camelizing and capitalizing do not lead from a refused spelling to an accepted one.
-/

namespace ComponentTags

open Text

/-! ## Built-in tags -/

theorem builtInTags_plain :
    ∀ word ∈ nativeTags ++ reservedTags, IsAscii word.toList ∧ '-' ∉ word.toList := by
  decide +kernel

/-- A tag is custom if it is no casing of a native or reserved one. -/
theorem Category.ofTag_eq_custom_iff {tag : String} :
    Category.ofTag tag = .custom ↔ ∀ word ∈ nativeTags ++ reservedTags, ¬foldsTo tag word := by
  have hnative : isNativeTag tag = true ↔ ∃ word ∈ nativeTags, foldsTo tag word := List.any_eq_true
  have hreserved : isReservedTag tag = true ↔ ∃ word ∈ reservedTags, foldsTo tag word :=
    List.any_eq_true
  simp only [List.mem_append, or_imp, forall_and]
  unfold Category.ofTag
  split
  · next h =>
    obtain ⟨word, hword, hfold⟩ := hnative.mp h
    simp only [reduceCtorEq, false_iff, not_and]
    exact fun hall => absurd hfold (hall word hword)
  · next h =>
    have hall : ∀ word ∈ nativeTags, ¬foldsTo tag word :=
      fun word hword hfold => h (hnative.mpr ⟨word, hword, hfold⟩)
    split
    · next h' =>
      obtain ⟨word, hword, hfold⟩ := hreserved.mp h'
      simp only [reduceCtorEq, false_iff, not_and]
      exact fun _ hall' => absurd hfold (hall' word hword)
    · next h' =>
      simp only [true_iff]
      exact ⟨hall, fun word hword hfold => h' (hreserved.mpr ⟨word, hword, hfold⟩)⟩

/-- Hyphenating does not turn a custom name into a built-in one. -/
theorem Category.ofTag_hyphenate {id : String} (h : Category.ofTag id = .custom) :
    Category.ofTag (Name.hyphenate id) = .custom := by
  rw [Category.ofTag_eq_custom_iff] at h ⊢
  intro word hword hfold
  obtain ⟨hascii, hhyphen⟩ := builtInTags_plain word hword
  exact h word hword (Name.foldsTo_of_foldsTo_hyphenate hascii hhyphen hfold)

/-- A spelling that leads to a custom id is custom. -/
theorem Category.ofTag_of_leadsTo {spelling id : String} (hid : Name.LeadsTo spelling id)
    (h : Category.ofTag id = .custom) : Category.ofTag spelling = .custom := by
  rw [Category.ofTag_eq_custom_iff] at h ⊢
  intro word hword hfold
  obtain ⟨hascii, hhyphen⟩ := builtInTags_plain word hword
  exact h word hword (Name.foldsTo_of_leadsTo hascii hhyphen hfold hid)

namespace Registry

/-! ## Histories -/

/-- What a registry goes through: an id is offered to it, or it is loaded from some entries. -/
inductive Command where
  | register (id : String) (component : Component)
  | load (entries : List (String × Component))

/-- The registry after a command. Loading starts afresh. -/
def apply (r : Registry) : Command → Registry
  | .register id component => (r.register id component).2
  | .load entries => (ofEntries entries).1

/-- The registry after some commands, the first of them on the empty registry. -/
def run (commands : List Command) : Registry :=
  commands.foldl apply empty

/-- Some history leads to the registry. -/
def Reachable (r : Registry) : Prop :=
  ∃ commands, run commands = r

/-- No id is a native or reserved tag name, in any casing. -/
def Sound (r : Registry) : Prop :=
  ∀ id ∈ r.components, Category.ofTag id = .custom

theorem register_custom {r : Registry} {id : String} {component : Component}
    (hid : Category.ofTag id = .custom) :
    r.register id component = (.ok (), ⟨r.components.insert id component⟩) := by
  unfold register
  unfold Category.ofTag at hid
  split at hid
  · cases hid
  split at hid
  · cases hid
  · next hnative hreserved => simp only [hnative, hreserved, Bool.or_self, Bool.false_eq_true, if_false]

/-- An id that is refused leaves the registry as it was. -/
theorem register_builtIn {r : Registry} {id : String} {component : Component}
    (hid : Category.ofTag id ≠ .custom) :
    r.register id component = (.error (.reservedId id), r) := by
  unfold register
  unfold Category.ofTag at hid
  split at hid
  · next hnative => simp only [hnative, Bool.true_or, if_true]
  split at hid
  · next hreserved => simp only [hreserved, Bool.or_true, if_true]
  · exact absurd rfl hid

theorem sound_empty : Sound empty := by
  intro id hid
  exact absurd hid Std.ExtTreeMap.not_mem_empty

theorem Sound.register {r : Registry} (hr : r.Sound) (id : String) (component : Component) :
    (r.register id component).2.Sound := by
  by_cases hid : Category.ofTag id = .custom
  · rw [register_custom hid]
    intro other hother
    rcases Std.ExtTreeMap.mem_insert.mp hother with heq | hmem
    · rwa [← Std.LawfulEqCmp.eq_of_compare heq]
    · exact hr other hmem
  · rwa [register_builtIn hid]

theorem sound_ofEntries (entries : List (String × Component)) : (ofEntries entries).1.Sound := by
  unfold ofEntries
  apply List.foldlRecOn (motive := fun loaded : Registry × List (String × Failure) =>
    loaded.1.Sound) _ _ sound_empty
  intro loaded hloaded entry hentry
  -- loading goes on with the registry after the entry, refused or not
  have hnext : (loaded.1.register entry.1 entry.2).2.Sound := hloaded.register entry.1 entry.2
  dsimp only
  split
  · next h => rwa [h] at hnext
  · next h => rwa [h] at hnext

/-- A command keeps a registry sound. -/
theorem Sound.apply {r : Registry} (hr : r.Sound) (command : Command) : (r.apply command).Sound := by
  cases command with
  | register id component => exact hr.register id component
  | load entries => exact sound_ofEntries entries

/-- Whatever a registry went through, it is sound. -/
theorem Reachable.sound {r : Registry} (h : r.Reachable) : r.Sound := by
  obtain ⟨commands, rfl⟩ := h
  unfold run
  apply List.foldlRecOn (motive := Sound) _ _ sound_empty
  intro before hbefore command hcommand
  exact hbefore.apply command

/-! ## Looking up -/

theorem mem_ids {r : Registry} {id : String} : id ∈ r.ids ↔ id ∈ r.components :=
  Std.ExtTreeMap.mem_keys

/-- A spelling is found exactly if an id it leads to is registered. -/
theorem lookup_isSome_iff {r : Registry} {spelling : String} :
    (r.lookup spelling).isSome ↔ ∃ id ∈ r.components, Name.LeadsTo spelling id := by
  simp only [lookup, Option.orElse_eq_orElse, Option.orElse_eq_or, Option.isSome_or,
    Bool.or_eq_true, Name.LeadsTo, ← Std.ExtTreeMap.mem_iff_isSome_getElem?]
  constructor
  · intro h
    rcases h with h | h | h
    · exact ⟨_, h, Or.inl rfl⟩
    · exact ⟨_, h, Or.inr (Or.inl rfl)⟩
    · exact ⟨_, h, Or.inr (Or.inr rfl)⟩
  · intro h
    obtain ⟨id, hid, rfl | rfl | rfl⟩ := h
    · exact Or.inl hid
    · exact Or.inr (Or.inl hid)
    · exact Or.inr (Or.inr hid)

/-- Only custom names are found. -/
theorem Sound.category_of_lookup {r : Registry} (hr : r.Sound) {spelling : String}
    (h : (r.lookup spelling).isSome) : Category.ofTag spelling = .custom := by
  obtain ⟨id, hid, hleads⟩ := lookup_isSome_iff.mp h
  exact Category.ofTag_of_leadsTo hleads (hr id hid)

/-! ## Spellings to suggest -/

/-- The name map of some ids. Of two ids that lose their difference without hyphens and capitals, the
later one counts. -/
def namesOf (ids : List String) : Dict String :=
  ids.foldl (fun names id => names.insert (Name.squash id) (Name.hyphenate id)) ∅

theorem nameMap_eq_namesOf (r : Registry) : r.nameMap = namesOf r.ids := rfl

/-- What a name map suggests comes from one of the ids. -/
theorem exists_of_namesOf {ids : List String} {key spelling : String}
    (h : (namesOf ids)[key]? = some spelling) :
    ∃ id ∈ ids, Name.squash id = key ∧ Name.hyphenate id = spelling := by
  have hids : ∀ spelling, (namesOf ids)[key]? = some spelling →
      ∃ id ∈ ids, Name.squash id = key ∧ Name.hyphenate id = spelling := by
    unfold namesOf
    apply List.foldlRecOn (motive := fun names : Dict String => ∀ spelling,
      names[key]? = some spelling → ∃ id ∈ ids, Name.squash id = key ∧ Name.hyphenate id = spelling)
    · intro spelling h
      simp at h
    · -- the id that was put in last, or one of those before it
      intro names hnames id hid spelling h
      rw [Std.ExtTreeMap.getElem?_insert] at h
      split at h
      · next hkey =>
        exact ⟨id, hid, Std.LawfulEqCmp.eq_of_compare hkey, Option.some.inj h⟩
      · exact hnames spelling h
  exact hids spelling h

end Registry

end ComponentTags
