import ComponentTags.Discovery
import ComponentTags.Proofs.Discovery.PlaceOrder
import ComponentTags.Proofs.Registry.History
import ComponentTags.Proofs.Text.Utf8
import Mathlib.Data.List.Induction
import Mathlib.Data.List.Nodup

/-!
# Which file an id leads to

Discovery goes through the files in the order of their places and registers each under up to two ids, so an
id leads to the last file that goes by it (`getElem?_foldl_registerFile`). An id that may not be registered,
a file that cannot be read and one whose name gives no id take nothing from the others. Places are distinct,
so the order of the files is determined by which files there are: it does not matter how the walk came upon
them (`discover_last_wins`).

That a file declares an id is not enough for it to be found under this id: its own name has to be a text as
well (`undecodable_stem_skipped`).
-/

namespace ComponentTags.Discovery

open Text

/-! ## Ids of a file -/

/-- A file can be read, its name without the extension is a text, and it goes by an id: the id is this text,
or the file declares it. -/
def SourceFile.GoesBy (file : SourceFile) (id : String) : Prop :=
  ∃ text stem, file.text = some text ∧ file.stem = bytes stem ∧
    (stem = id ∨ declaredName? text = some id)

/-- A file has one of the selected extensions. -/
def Settings.Selects (settings : Settings) (file : SourceFile) : Prop :=
  ∃ extension ∈ settings.extensions, file.extension? = some (bytes extension)

/-- A file gives a component of this id. -/
def Settings.Offers (settings : Settings) (file : SourceFile) (id : String) : Prop :=
  settings.Selects file ∧ file.GoesBy id

theorem mem_idsOf {stem text id : String} :
    id ∈ idsOf stem text ↔ stem = id ∨ declaredName? text = some id := by
  rw [idsOf, List.mem_cons, List.mem_filter, Option.mem_toList, eq_comm (a := id), bne_iff_ne]
  constructor
  · rintro (hstem | ⟨hdeclared, -⟩)
    · exact Or.inl hstem
    · exact Or.inr hdeclared
  · rintro (hstem | hdeclared)
    · exact Or.inl hstem
    · by_cases hstem : stem = id
      · exact Or.inl hstem
      · exact Or.inr ⟨hdeclared, fun h => hstem h.symm⟩

theorem SourceFile.goesBy_iff {file : SourceFile} {id : String} :
    file.GoesBy id ↔ ∃ text ∈ file.text, ∃ stem ∈ text? file.stem, id ∈ idsOf stem text := by
  simp only [GoesBy, Option.mem_def, text?_eq_some_iff, mem_idsOf, exists_and_left]

theorem SourceFile.goesBy_iff_mem_idsOf {file : SourceFile} {text stem id : String}
    (htext : file.text = some text) (hstem : text? file.stem = some stem) :
    file.GoesBy id ↔ id ∈ idsOf stem text := by
  simp only [goesBy_iff, htext, hstem, Option.mem_some_iff, exists_eq_left']

theorem Settings.selects_iff {settings : Settings} {file : SourceFile} :
    settings.Selects file ↔ (file.extension?.bind text?).any settings.extensions.contains := by
  simp only [Selects, Option.any_eq_true, Option.bind_eq_some_iff, text?_eq_some_iff,
    List.contains_iff_mem]
  constructor
  · rintro ⟨extension, hmem, hextension⟩
    exact ⟨extension, ⟨_, hextension, rfl⟩, hmem⟩
  · rintro ⟨extension, ⟨_, hextension, rfl⟩, hmem⟩
    exact ⟨extension, hmem, hextension⟩

instance (file : SourceFile) (id : String) : Decidable (file.GoesBy id) :=
  decidable_of_iff _ SourceFile.goesBy_iff.symm

instance (settings : Settings) (file : SourceFile) : Decidable (settings.Selects file) :=
  decidable_of_iff _ Settings.selects_iff.symm

instance (settings : Settings) (file : SourceFile) (id : String) : Decidable (settings.Offers file id) :=
  inferInstanceAs (Decidable (settings.Selects file ∧ file.GoesBy id))

/-! ## Registering in turn -/

section

variable {root : Path} {path id key : String} {found : Registry × List Event} {file : SourceFile}

/-- Registering under one id changes what this id leads to, unless it is refused. -/
theorem getElem?_registerAs : (registerAs path found id).1.components[key]? =
    if key = id ∧ Category.ofTag key = .custom then some { name := key, path }
    else found.1.components[key]? := by
  unfold registerAs
  by_cases hcustom : Category.ofTag id = .custom
  · rw [Registry.register_custom hcustom]
    dsimp only
    by_cases hkey : id = key
    · subst hkey
      rw [Std.ExtTreeMap.getElem?_insert_self, if_pos ⟨rfl, hcustom⟩]
    · have hother : compare id key ≠ .eq := fun h => hkey (Std.LawfulEqCmp.eq_of_compare h)
      rw [Std.ExtTreeMap.getElem?_insert, if_neg hother, if_neg fun h => hkey h.1.symm]
  · rw [Registry.register_builtIn hcustom, if_neg]
    rintro ⟨rfl, hkey⟩
    exact hcustom hkey

theorem getElem?_foldl_registerAs (ids : List String) :
    (ids.foldl (registerAs path) found).1.components[key]? =
      if key ∈ ids ∧ Category.ofTag key = .custom then some { name := key, path }
      else found.1.components[key]? := by
  induction ids generalizing found with
  | nil => rw [List.foldl_nil, if_neg fun h => List.not_mem_nil h.1]
  | cons id ids ih =>
    rw [List.foldl_cons, ih, getElem?_registerAs]
    by_cases hcustom : Category.ofTag key = .custom
    · by_cases hids : key ∈ ids <;> simp [hcustom, hids]
    · simp [hcustom]

/-- A file changes what the ids lead to that it goes by, and leaves the others. -/
theorem getElem?_registerFile : (registerFile root found file).1.components[key]? =
    if file.GoesBy key ∧ Category.ofTag key = .custom then
      some { name := key, path := lossy (pathBelow root file.place) }
    else found.1.components[key]? := by
  unfold registerFile
  cases htext : file.text with
  | some text =>
    cases hstem : text? file.stem with
    | some stem => simp only [getElem?_foldl_registerAs, SourceFile.goesBy_iff_mem_idsOf htext hstem]
    | none =>
      -- the name that such a file declares does not count either
      have hnameless : ¬file.GoesBy key := by
        simp only [SourceFile.goesBy_iff, hstem, Option.not_mem_none, false_and, exists_false,
          and_false, not_false_eq_true]
      rw [if_neg fun h => hnameless h.1]
  | none =>
    have hunread : ¬file.GoesBy key := by
      simp only [SourceFile.goesBy_iff, htext, Option.not_mem_none, false_and, exists_false,
        not_false_eq_true]
    rw [if_neg fun h => hunread h.1]

/-- After some files an id leads to the last of them that goes by it. -/
theorem getElem?_foldl_registerFile (files : List SourceFile) :
    (files.foldl (registerFile root) (.empty, [])).1.components[key]? =
      if Category.ofTag key = .custom then
        (files.filter (·.GoesBy key)).getLast?.map fun file =>
          { name := key, path := lossy (pathBelow root file.place) }
      else none := by
  induction files using List.reverseRecOn with
  | nil => simp [Registry.empty]
  | append_singleton files file ih =>
    rw [List.foldl_append, List.foldl_cons, List.foldl_nil, getElem?_registerFile, ih, List.filter_append]
    by_cases hcustom : Category.ofTag key = .custom
    · by_cases hgoes : file.GoesBy key
      · rw [if_pos ⟨hgoes, hcustom⟩, if_pos hcustom, List.filter_singleton, decide_eq_true hgoes, cond_true,
          List.getLast?_concat, Option.map_some]
      · rw [if_neg fun h => hgoes h.1, List.filter_singleton, decide_eq_false hgoes, cond_false,
          List.append_nil]
    · rw [if_neg fun h => hcustom h.2, if_neg hcustom, if_neg hcustom]

end

/-! ## The order of the files -/

section

variable {settings : Settings} {files walk : List SourceFile} {file : SourceFile}

theorem mem_selectFiles :
    file ∈ selectFiles settings files ↔ file ∈ files ∧ settings.Selects file := by
  rw [selectFiles, List.mem_mergeSort, List.mem_filter, Settings.selects_iff]

theorem eq_of_place_eq (hplaces : (files.map (·.place)).Nodup) {a b : SourceFile} (ha : a ∈ files)
    (hb : b ∈ files) (h : a.place = b.place) : a = b :=
  List.inj_on_of_nodup_map hplaces ha hb h

theorem pairwise_selectFiles :
    (selectFiles settings files).Pairwise fun a b => a.place.before b.place :=
  @List.pairwise_mergeSort _ (fun a b : SourceFile => a.place.before b.place)
    (fun _ _ _ => Place.before_trans) (fun a b => Place.before_total a.place b.place) _

theorem nodup_selectFiles (hplaces : (files.map (·.place)).Nodup) :
    (selectFiles settings files).Nodup :=
  (List.mergeSort_perm _ _).nodup_iff.mpr ((List.Nodup.of_map _ hplaces).filter _)

/-- Each selected file comes before the ones that follow. -/
theorem pairwise_precedes_selectFiles (hplaces : (files.map (·.place)).Nodup) :
    (selectFiles settings files).Pairwise fun a b => a.place.Precedes b.place := by
  refine (pairwise_selectFiles.and (nodup_selectFiles hplaces)).imp_of_mem ?_
  -- what comes before or is at the same place comes before, since no two files are at one place
  intro a b ha hb ⟨hbefore, hne⟩
  rcases Place.before_iff.mp hbefore with heq | hprecedes
  · exact absurd (eq_of_place_eq hplaces (mem_selectFiles.mp ha).1 (mem_selectFiles.mp hb).1 heq) hne
  · exact hprecedes

/-- Which files are taken, and in which order, does not depend on the walk. -/
theorem selectFiles_eq_of_perm (hplaces : (files.map (·.place)).Nodup) (hwalk : walk.Perm files) :
    selectFiles settings walk = selectFiles settings files := by
  have hperm : (selectFiles settings walk).Perm (selectFiles settings files) :=
    (List.mergeSort_perm _ _).trans ((hwalk.filter _).trans (List.mergeSort_perm _ _).symm)
  refine hperm.eq_of_pairwise ?_ pairwise_selectFiles pairwise_selectFiles
  intro a b ha hb hab hba
  have ha' : a ∈ files := hwalk.mem_iff.mp (mem_selectFiles.mp ha).1
  exact eq_of_place_eq hplaces ha' (mem_selectFiles.mp hb).1 (Place.before_antisymm hab hba)

/-- In a list whose members come before those that follow, the last one is the one that all others come
before. -/
theorem getLast?_eq_some_iff_of_precedes (hfiles : files.Pairwise fun a b => a.place.Precedes b.place) :
    files.getLast? = some file ↔
      file ∈ files ∧ ∀ other ∈ files, other = file ∨ other.place.Precedes file.place := by
  constructor
  · intro hlast
    obtain ⟨front, rfl⟩ := List.getLast?_eq_some_iff.mp hlast
    refine ⟨List.mem_append_right _ List.mem_cons_self, fun other hother => ?_⟩
    rcases List.mem_append.mp hother with hfront | hback
    · exact Or.inr ((List.pairwise_append.mp hfiles).2.2 other hfront file List.mem_cons_self)
    · exact Or.inl (List.mem_singleton.mp hback)
  · rintro ⟨hmem, hall⟩
    obtain ⟨front, back, rfl⟩ := List.append_of_mem hmem
    cases back with
    | nil => exact List.getLast?_concat
    | cons next back =>
      -- a file after this one would have to come before it as well
      have hafter : file.place.Precedes next.place :=
        (List.pairwise_cons.mp (List.pairwise_append.mp hfiles).2.1).1 next List.mem_cons_self
      rcases hall next (by simp) with rfl | hbefore
      · exact absurd hafter Place.Precedes.irrefl
      · exact absurd hbefore hafter.asymm

/-- Of the selected files that go by an id, the last one is the file that all others come before. -/
theorem getLast?_filter_selectFiles (hplaces : (files.map (·.place)).Nodup) {id : String} :
    ((selectFiles settings files).filter (·.GoesBy id)).getLast? = some file ↔
      file ∈ files ∧ settings.Offers file id ∧
        ∀ other ∈ files, settings.Offers other id → other = file ∨ other.place.Precedes file.place := by
  have hmem : ∀ other, other ∈ (selectFiles settings files).filter (·.GoesBy id) ↔
      other ∈ files ∧ settings.Offers other id := by
    intro other
    rw [List.mem_filter, mem_selectFiles, decide_eq_true_iff, and_assoc, Settings.Offers]
  rw [getLast?_eq_some_iff_of_precedes ((pairwise_precedes_selectFiles hplaces).filter _)]
  simp only [hmem, and_imp, and_assoc]

end

/-- The last file that claims an id has it, however the files were found.

Below a folder of files at distinct places, discovery succeeds. An id leads to a component exactly if it is no
casing of a native or reserved tag and some file offers it that can be read, has a selected extension, and has
a name that is a text without the extension. The component has the id for its name, and its path leads to the
file among these which all others come before, name by name and byte by byte. A path that is a text is kept as
it is. Every other order of the same files gives the same registry and the same log. -/
theorem discover_last_wins (settings : Settings) (root : Path) {files : List SourceFile}
    (hplaces : (files.map (·.place)).Nodup) :
    ∃ registry log, discover settings root (.folder files) = .ok (registry, log) ∧
      (∀ id component, registry.components[id]? = some component ↔
        (∀ word ∈ nativeTags ++ reservedTags, ¬foldsTo id word) ∧
        ∃ file ∈ files, settings.Offers file id ∧
          (∀ other ∈ files, settings.Offers other id →
            other = file ∨ other.place.Precedes file.place) ∧
          component = { name := id, path := lossy (pathBelow root file.place) }) ∧
      (∀ place path, pathBelow root place = bytes path → lossy (pathBelow root place) = path) ∧
      ∀ walk, walk.Perm files → discover settings root (.folder walk) = .ok (registry, log) := by
  refine ⟨_, _, rfl, fun id component => ?_, fun place path hpath => ?_, fun walk hwalk => ?_⟩
  · rw [getElem?_foldl_registerFile, ← Category.ofTag_eq_custom_iff]
    by_cases hcustom : Category.ofTag id = .custom
    · rw [if_pos hcustom, Option.map_eq_some_iff]
      simp only [getLast?_filter_selectFiles hplaces, hcustom, true_and, and_assoc, eq_comm]
    · simp only [hcustom, if_false, false_and, reduceCtorEq]
  · rw [hpath, lossy_bytes]
  · rw [discover, selectFiles_eq_of_perm hplaces hwalk]

/-- Five files that claim `x-list`, three of them in vain: one cannot be read, one has another extension, and
the name of one is no text. Of the other two, the paths would put the folder `a-b` before `a`. The file that
declares `tree` has a name that is refused, in a folder whose name is no text. -/
def contested : List SourceFile := [
  ⟨placeOf (bytes "z/x-list.vue"), none⟩,
  ⟨placeOf (bytes "z/x-list.txt"), some ""⟩,
  ⟨[bytes "z", 0xFF :: bytes ".vue"], some "<script>name: 'x-list'</script>"⟩,
  ⟨placeOf (bytes "a-b/x-list.vue"), some ""⟩,
  ⟨placeOf (bytes "a/card.vue"), some "<script>name: \"x-list\"</script>"⟩,
  ⟨[[0xFE], bytes "Div.vue"], some "<script>name: \"tree\"</script>"⟩]

theorem discover_contested :
    ∃ registry log, discover {} (bytes "src") (.folder contested) = .ok (registry, log) ∧
      registry.components["x-list"]? = some { name := "x-list", path := "src/a-b/x-list.vue" } ∧
      registry.components["tree"]? = some { name := "tree", path := "src/\uFFFD/Div.vue" } ∧
      registry.components["Div"]? = none ∧
      discover {} (bytes "src") (.folder contested.reverse) = .ok (registry, log) := by
  have hplaces : (contested.map (·.place)).Nodup := by decide +kernel
  obtain ⟨registry, log, hok, hlast, -, hwalk⟩ := discover_last_wins {} (bytes "src") hplaces
  refine ⟨registry, log, hok, (hlast _ _).mpr ?_, (hlast _ _).mpr ?_, ?_, hwalk _ (List.reverse_perm _)⟩
  · exact ⟨by decide +kernel, ⟨placeOf (bytes "a-b/x-list.vue"), some ""⟩, by decide +kernel⟩
  · exact ⟨by decide +kernel,
      ⟨[[0xFE], bytes "Div.vue"], some "<script>name: \"tree\"</script>"⟩, by decide +kernel⟩
  · rw [Option.eq_none_iff_forall_ne_some]
    intro component hdiv
    exact absurd ((hlast _ _).mp hdiv).1 (by decide +kernel)

/-- A file whose name is no text before the extension is passed over, whatever it declares: here it is the
only one, can be read, has a selected extension, and declares a name that is no built-in tag, and still nothing
is found and nothing is said. And a root that is a file itself gives no registry at all. -/
theorem undecodable_stem_skipped :
    let file : SourceFile := ⟨[0xFF :: bytes ".vue"], some "<script>name: 'Foo'</script>"⟩
    let tree : FileTree := { files := [⟨placeOf (bytes "Only.vue"), some ""⟩] }
    Settings.Selects {} file ∧ declaredName? "<script>name: 'Foo'</script>" = some "Foo" ∧
      (∀ word ∈ nativeTags ++ reservedTags, ¬foldsTo "Foo" word) ∧
      discover {} (bytes "src") (.folder [file]) = .ok (.empty, []) ∧
      discover {} (bytes "Only.vue") (tree.root (bytes "Only.vue")) =
        .error (.notADirectory "Only.vue") := by
  decide +kernel

end ComponentTags.Discovery
