import ComponentTags.Proofs.Forest.Diagnostics
import ComponentTags.Proofs.Registry.NameMap
import ComponentTags.Proofs.Resolve.Suggestion

/-!
# Two ways to options

Options are built over a registry, with the spellings it suggests put in at once, or they are loaded from
a text that holds the registry, with the spellings put in only if there will be warnings. Under both every
forest is resolved alike, with the same warnings (`Options.load_agrees`): without diagnostics nobody looks
at the spellings.

The spellings are collected from the ids in whatever order the registry lists them, so for two lists to be
the same no two ids may have one key and different spellings.
-/

namespace ComponentTags

open Json FaithfulSource

namespace Options

/-- The text of options that name a registry, its entries given in some order, and say whether there are
warnings. -/
def written (entries : List (String × Component)) (diagnostics : Bool) : Value :=
  .object [("components", Registry.written entries), ("diagnostics", .bool diagnostics)]

theorem depth_written (entries : List (String × Component)) (diagnostics : Bool) :
    (written entries diagnostics).depth ≤ 3 :=
  Nat.succ_le_succ (Nat.max_le.mpr ⟨Registry.depth_written entries, Nat.zero_le 2⟩)

variable {r : Registry} {entries : List (String × Component)}

theorem takes_written (hr : r.Sound) (hentries : entries.Perm r.components.toList) (diagnostics : Bool) :
    Takes Options.read (written entries diagnostics) ({ components := r, diagnostics }, []) := by
  refine record ⟨some (r, []), none, some diagnostics, none⟩ ?_ rfl
  refine .consOf rfl rfl (hr.takes hentries) ?_
  refine .consOf rfl rfl (Scan.takes_bool diagnostics) ?_
  exact .nil _

theorem load_written (hr : r.Sound) (hentries : entries.Perm r.components.toList) (diagnostics : Bool) :
    Options.load (written entries diagnostics).text =
      .ok (({ components := r, diagnostics } : Options).withNameMap, []) := by
  have hdepth := depth_written entries diagnostics
  have hread : Scan.whole Options.read (written entries diagnostics).text =
      .ok ({ components := r, diagnostics }, []) :=
    (takes_written hr hentries diagnostics).whole_eq_ok (by omega)
  unfold load
  rw [hread]

/-- Options built over a registry whose spellings are unambiguous, with warnings turned on or off, and
options loaded from a text that names the registry and turns them on or off leave the same forests and
give the same warnings in the same order, in whatever orders the ids and the entries are listed. With
warnings on the options are the same; with warnings off they differ, in the spellings nobody asks for. -/
theorem load_agrees (hr : r.Reachable) (hids : Registry.Unambiguous r.ids) {ids : List String}
    (hlisted : ids.Perm r.ids) (hentries : entries.Perm r.components.toList) (diagnostics : Bool) :
    let built := { enumerated r ids with diagnostics }
    ∃ loaded, Options.load (written entries diagnostics).text = .ok (loaded, []) ∧
      (∀ host nodes, resolveAll host built nodes = resolveAll host loaded nodes) ∧
      (built = loaded ↔ diagnostics = true) := by
  intro built
  have hnames : Registry.namesOf ids = r.nameMap := Registry.namesOf_eq_of_perm hids hlisted
  have hbuilt : built = { components := r, nameMap := some r.nameMap, diagnostics } := by
    rw [← hnames]
    rfl
  refine ⟨_, load_written hr.sound hentries diagnostics, ?_⟩
  rw [hbuilt]
  cases diagnostics with
  | true => exact ⟨fun host nodes => rfl, fun _ => rfl, fun _ => rfl⟩
  | false =>
    -- Only the spellings differ, and they are asked for when there is something to warn of.
    refine ⟨fun host nodes => Prod.ext ?_ ?_, ?_⟩
    · apply resolveAll_fst_agree
      · rfl
      · rfl
    · rw [resolveAll_snd_of_silent rfl, resolveAll_snd_of_silent rfl]
    · constructor
      · intro hsame
        exact absurd (congrArg Options.nameMap hsame) (Option.some_ne_none _)
      · intro h
        cases h

/-- Two ids of which one is hyphenated, listed in reverse, with warnings and without. -/
theorem load_agrees_of_two_ids :
    let r := Registry.run [.register "MyWidget" { path := "widget.vue" }, .register "nav-bar" {}]
    r.Reachable ∧ Registry.Unambiguous r.ids ∧
      Options.load (written r.components.toList.reverse true).text =
        .ok (enumerated r ["nav-bar", "MyWidget"], []) ∧
      ∃ loaded, Options.load (written r.components.toList false).text = .ok (loaded, []) ∧
        (resolveAll .browser loaded [.element { tag := "MyWidget" } []]).2 = [] ∧
        loaded ≠ { enumerated r ["nav-bar", "MyWidget"] with diagnostics := false } := by
  intro r
  have hr : r.Reachable := ⟨_, rfl⟩
  have hids : Registry.Unambiguous r.ids := by decide +kernel
  have hlisted : ["nav-bar", "MyWidget"].Perm r.ids := by decide +kernel
  obtain ⟨loud, hloud, -, hsame⟩ :=
    load_agrees hr hids hlisted (List.reverse_perm r.components.toList) true
  obtain ⟨quiet, hquiet, hresolve, hother⟩ :=
    load_agrees hr hids hlisted (List.Perm.refl r.components.toList) false
  refine ⟨hr, hids, ?_, quiet, hquiet, ?_, ?_⟩
  · rw [hloud, ← hsame.mpr rfl]
    rfl
  · rw [← hresolve]
    decide +kernel
  · intro heq
    exact absurd (hother.mp heq.symm) Bool.false_ne_true

end Options

end ComponentTags
