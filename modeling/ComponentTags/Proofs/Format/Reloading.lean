import ComponentTags.Proofs.Format.Options
import ComponentTags.Proofs.Json.Yields

/-!
# Options loaded twice

Loading options is a normalisation: what was loaded is written so that it loads back unchanged
(`Options.load_normalises`). Whatever a text says, the registry that is read from it holds custom ids only
(`Options.yields_read`), so no id is refused when its entries come back. The spellings to suggest are there
already if there will be warnings, and where they are not, null is written, which is read as their absence.

Maps have no order. One that is written lists its entries in any order, and the spellings are collected
from the ids in any order, where the last of several with one key counts. So there may be several values
that some options are written as (`Options.WrittenAs`), and a text may be loaded as several options
(`Options.MayLoad`).
-/

namespace ComponentTags

open Json FaithfulSource

/-! ## What is read is sound -/

theorem Registry.yields_read : Scan.Yields Registry.read fun loaded => loaded.1.Sound := by
  refine .bind_of_forall fun entries => Scan.yields_pure ?_
  exact sound_ofEntries (Dict.ofEntries entries).toList

namespace Options

theorem yields_read : Scan.Yields Options.read fun loaded => loaded.1.components.Sound := by
  -- A draft is sound if the registry in it is, should there be one already.
  refine Scan.Yields.record (I := fun draft => ∀ loaded ∈ draft.components, loaded.1.Sound) ?_ ?_ ?_
  · exact fun loaded hloaded => absurd hloaded (Option.not_mem_none loaded)
  · intro field hfield draft hdraft
    simp only [List.mem_cons, List.not_mem_nil, or_false] at hfield
    obtain rfl | rfl | rfl | rfl := hfield
    · refine Registry.yields_read.map fun read hread loaded hloaded => ?_
      rw [Option.mem_some.mp hloaded.symm]
      exact hread
    · exact Scan.yields_trivial.map fun _ _ => hdraft
    · exact Scan.yields_trivial.map fun _ _ => hdraft
    · exact Scan.yields_trivial.map fun _ _ => hdraft
  · intro missing draft options hdraft hfinish
    obtain rfl := Except.ok.inj hfinish
    dsimp only
    cases hcomponents : draft.components with
    | none => exact Registry.sound_empty
    | some loaded => exact hdraft loaded hcomponents

/-! ## Writing -/

/-- A map of spellings as it is written, in the order its entries are given in. -/
def writtenNames (names : List (String × String)) : Value :=
  .object (names.map fun e => (e.1, .string e.2))

/-- What the spellings are written as: null if there are none, or else their entries in some order. -/
def NamesWrittenAs : Option (Dict String) → Value → Prop
  | none, v => v = .null
  | some names, v => ∃ entries, entries.Perm names.toList ∧ v = writtenNames entries

/-- Options are written as the value: with all four fields, and the entries of maps in some order. -/
def WrittenAs (o : Options) (v : Value) : Prop :=
  ∃ entries names, entries.Perm o.components.components.toList ∧ NamesWrittenAs o.nameMap names ∧
    v = .object [
      ("components", Registry.written entries),
      ("componentNameMap", names),
      ("diagnostics", .bool o.diagnostics),
      ("bindPrefixes", .strings o.bindPrefixes)]

theorem writtenAs_toJson (o : Options) : o.WrittenAs o.toJson := by
  refine ⟨_, _, List.Perm.refl _, ?_, rfl⟩
  cases o.nameMap with
  | none => rfl
  | some names => exact ⟨_, List.Perm.refl _, rfl⟩

theorem NamesWrittenAs.takes {names : Option (Dict String)} {v : Value} (h : NamesWrittenAs names v) :
    Takes (Scan.nullable (Dict.ofEntries <$> Scan.map Scan.string)) v names := by
  cases names with
  | none =>
    obtain rfl := h
    exact Scan.takes_nullable_null
  | some names =>
    obtain ⟨entries, hentries, rfl⟩ := h
    have hmap : Takes (Scan.map Scan.string) (writtenNames entries) entries := by
      refine Scan.takes_map (List.forall₂_map_left_iff.mpr (List.forall₂_same.mpr fun e _ => ?_))
      exact ⟨rfl, Scan.takes_string e.2⟩
    have hnames : Dict.ofEntries entries = names := by
      rw [Dict.ofEntries_eq_of_perm (compatible_toList names) hentries, Dict.ofEntries_toList]
    exact hnames ▸ (hmap.map Dict.ofEntries).nullable_object

theorem takes_strings (items : List String) :
    Takes (Source.list Source.string : Scan (List String)) (.strings items) items :=
  list (List.forall₂_map_left_iff.mpr (List.forall₂_same.mpr fun s _ => string s))

theorem depth_writtenNames (names : List (String × String)) : (writtenNames names).depth ≤ 1 :=
  Nat.succ_le_succ (depthOfEntries_le (List.forall_mem_map.mpr fun _ _ => Nat.le_refl 0))

theorem depth_strings (items : List String) : (Value.strings items).depth ≤ 1 :=
  Nat.succ_le_succ (depthOfItems_le (List.forall_mem_map.mpr fun _ _ => Nat.le_refl 0))

theorem NamesWrittenAs.depth_le {names : Option (Dict String)} {v : Value} (h : NamesWrittenAs names v) :
    v.depth ≤ 1 := by
  cases names with
  | none =>
    obtain rfl := h
    exact Nat.zero_le 1
  | some names =>
    obtain ⟨entries, -, rfl⟩ := h
    exact depth_writtenNames entries

/-- Options with a sound registry are read back from what they are written as, and no id is refused. -/
theorem WrittenAs.whole_eq_ok {o : Options} {v : Value} (h : o.WrittenAs v) (ho : o.components.Sound) :
    Scan.whole Options.read v.text = .ok (o, []) := by
  obtain ⟨entries, names, hentries, hnames, hv⟩ := h
  have htakes : Takes Options.read v (o, []) := by
    rw [hv]
    refine record
      ⟨some (o.components, []), some o.nameMap, some o.diagnostics, some o.bindPrefixes⟩ ?_ rfl
    refine .consOf rfl rfl (ho.takes hentries) ?_
    refine .consOf rfl rfl hnames.takes ?_
    refine .consOf rfl rfl (Scan.takes_bool o.diagnostics) ?_
    refine .consOf rfl rfl (takes_strings o.bindPrefixes) ?_
    exact .nil _
  have hdepth : v.depth ≤ 3 := by
    have hregistry := Registry.depth_written entries
    have hspellings := hnames.depth_le
    have hprefixes := depth_strings o.bindPrefixes
    rw [hv]
    simp only [Value.depth, depthOfEntries]
    omega
  exact htakes.whole_eq_ok (by omega)

/-! ## Loading -/

/-- The options with the spellings derived from the ids, if warnings are on and none are given. -/
def withNamesOf (o : Options) (ids : List String) : Options :=
  if o.nameMap.isNone && o.diagnostics then { o with nameMap := some (Registry.namesOf ids) } else o

/-- What the text may be loaded as, the ids being listed in some order where the spellings are derived. -/
def MayLoad (text : String) (o : Options) (log : List Event) : Prop :=
  ∃ read ids, Scan.whole Options.read text = .ok (read, log) ∧ ids.Perm read.components.ids ∧
    o = read.withNamesOf ids

theorem mayLoad_of_load {text : String} {o : Options} {log : List Event}
    (h : load text = .ok (o, log)) : MayLoad text o log := by
  unfold load at h
  split at h
  · next read log' hread =>
    obtain ⟨rfl, rfl⟩ := Prod.mk.inj (Except.ok.inj h)
    exact ⟨read, read.components.ids, hread, List.Perm.refl _, rfl⟩
  · cases h

theorem withNamesOf_components (o : Options) (ids : List String) :
    (o.withNamesOf ids).components = o.components := by
  unfold withNamesOf
  split <;> rfl

/-- With warnings there are spellings to suggest. -/
theorem nameMap_withNamesOf {o : Options} {ids : List String} (h : (o.withNamesOf ids).diagnostics) :
    (o.withNamesOf ids).nameMap.isSome := by
  unfold withNamesOf at h ⊢
  split
  · rfl
  · next hgiven =>
    rw [if_neg hgiven] at h
    rw [h, Bool.and_true] at hgiven
    exact Option.isSome_iff_ne_none.mpr fun hnone => hgiven (Option.isNone_iff_eq_none.mpr hnone)

/-- Spellings that are there are left alone, and where no warnings are given none are derived. -/
theorem withNamesOf_eq_self {o : Options} (h : o.diagnostics → o.nameMap.isSome) (ids : List String) :
    o.withNamesOf ids = o := by
  unfold withNamesOf
  refine if_neg fun hderived => ?_
  rw [Bool.and_eq_true] at hderived
  have hsome := h hderived.2
  rw [Option.isNone_iff_eq_none.mp hderived.1] at hsome
  cases hsome

/-- Of a text that options were loaded from, by whatever order of their ids: with warnings there are
spellings to suggest; and whatever order their maps are written in, loading what was written gives the same
options again, by whatever order of the ids, with no id refused. -/
theorem load_normalises (text : String) :
    (∀ o log, load text = .ok (o, log) → MayLoad text o log) ∧
    ∀ o log, MayLoad text o log →
      (o.diagnostics → o.nameMap.isSome) ∧
      o.WrittenAs o.toJson ∧
      ∀ v, o.WrittenAs v →
        load v.text = .ok (o, []) ∧ ∀ o' log', MayLoad v.text o' log' → o' = o ∧ log' = [] := by
  refine ⟨fun o log => mayLoad_of_load, ?_⟩
  rintro o log ⟨read, ids, hread, -, rfl⟩
  have hsound : (read.withNamesOf ids).components.Sound := by
    rw [withNamesOf_components]
    exact yields_read.of_whole hread
  refine ⟨nameMap_withNamesOf, writtenAs_toJson _, fun v hv => ?_⟩
  have hagain := hv.whole_eq_ok hsound
  -- What is read again has its spellings, or gives no warnings, so no more are derived.
  have hstays := withNamesOf_eq_self (o := read.withNamesOf ids) nameMap_withNamesOf
  refine ⟨?_, ?_⟩
  · unfold load
    rw [hagain]
    exact congrArg (fun o => Except.ok (o, [])) (hstays _)
  · rintro o' log' ⟨read', ids', hread', -, rfl⟩
    obtain ⟨rfl, rfl⟩ := Prod.mk.inj (Except.ok.inj (hagain.symm.trans hread'))
    exact ⟨hstays ids', rfl⟩

/-- A text in which no spellings are given, one of two ids is reserved and one prefix is said twice. -/
def configured : String :=
  "\x7b\"components\": \x7b\"Slot\": \x7b\x7d, \"MyWidget\": \x7b\"path\": \"widget.vue\"\x7d\x7d,\n" ++
    "\"bindPrefixes\": [\":\", \"bind-\", \":\"]\x7d"

/-- What is loaded from it. -/
def inConfigured : Options where
  components := ⟨Dict.ofEntries [("MyWidget", { path := "widget.vue" })]⟩
  nameMap := some (Dict.ofEntries [("mywidget", "my-widget")])
  bindPrefixes := [":", "bind-", ":"]

theorem load_configured :
    load configured = .ok (inConfigured, [.ofRefusal "Slot" (.reservedId "Slot")]) ∧
      load inConfigured.toJson.text = .ok (inConfigured, []) := by
  have hload : load configured = .ok (inConfigured, [.ofRefusal "Slot" (.reservedId "Slot")]) := by
    decide +kernel
  obtain ⟨hmay, hagain⟩ := load_normalises configured
  obtain ⟨-, hwritten, hsame⟩ := hagain _ _ (hmay _ _ hload)
  exact ⟨hload, (hsame _ hwritten).1⟩

end Options

end ComponentTags
