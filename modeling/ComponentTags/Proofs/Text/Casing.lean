import ComponentTags.Text.Fold
import ComponentTags.Text.Lowercase
import ComponentTags.Text.Uppercase
import Mathlib.Data.String.Basic

/-!
# Lowercasing, uppercasing and folding

The case mappings are tables, so what holds of them for every character has two parts: what a run of
a table says of the code points it maps, and a finite check of the runs. Three things come out of it:

* on ASCII text the mappings are those of single characters;
* nothing is left to lowercase in a lowercased text (`lowercase_lowercase`), and no ASCII capital
  (`isUpper_of_mem_lowercase`);
* a lowercased text folds to an ASCII word exactly if the text itself does (`foldsTo_lowercase`).
-/

namespace ComponentTags.Text

/-! ## ASCII characters -/

/-- Every character is an ASCII character. -/
def IsAscii (cs : List Char) : Prop :=
  ∀ c ∈ cs, c.toNat < 128

-- named, for Mathlib also has an instance that tries every character
instance (cs : List Char) : Decidable (IsAscii cs) :=
  List.decidableBAll (fun c : Char => c.toNat < 128) cs

theorem IsAscii.head {c : Char} {cs : List Char} (h : IsAscii (c :: cs)) : c.toNat < 128 :=
  h c List.mem_cons_self

theorem IsAscii.tail {c : Char} {cs : List Char} (h : IsAscii (c :: cs)) : IsAscii cs :=
  fun d hd => h d (List.mem_cons_of_mem c hd)

theorem IsAscii.cons {c : Char} {cs : List Char} (hc : c.toNat < 128) (h : IsAscii cs) :
    IsAscii (c :: cs) := by
  intro d hd
  rcases List.mem_cons.mp hd with heq | hmem
  · rwa [heq]
  · exact h d hmem

/-- What holds of the first 128 code points holds of every ASCII character. -/
theorem ascii_induction {P : Char → Prop} (h : ∀ n < 128, P (Char.ofNat n)) {c : Char}
    (hc : c.toNat < 128) : P c := by
  have hn := h c.toNat hc
  rwa [Char.ofNat_toNat] at hn

theorem lowerChar_ascii {c : Char} (h : c.toNat < 128) : lowerChar c = [c.toLower] := by
  rw [lowerChar, if_pos h]

theorem upperChar_ascii {c : Char} (h : c.toNat < 128) : upperChar c = [c.toUpper] := by
  rw [upperChar, if_pos h]

theorem toLower_toNat_lt {c : Char} (h : c.toNat < 128) : c.toLower.toNat < 128 :=
  ascii_induction (P := fun c => c.toLower.toNat < 128) (by decide) h

/-- Only ASCII has capitals in the sense of `Char.isUpper`. -/
theorem toNat_lt_of_isUpper {c : Char} (h : c.isUpper) : c.toNat < 128 := by
  have hrange : 'A'.val ≤ c.val ∧ c.val ≤ 'Z'.val := of_decide_eq_true h
  have hlast : c.toNat ≤ 'Z'.toNat := UInt32.le_iff_toNat_le.mp hrange.2
  have hz : 'Z'.toNat = 90 := rfl
  omega

theorem toNat_lt_of_isLower {c : Char} (h : c.isLower) : c.toNat < 128 := by
  have hlast : c.val ≤ 'z'.val := of_decide_eq_true ((Bool.and_eq_true _ _).mp h).2
  have hnat : c.toNat ≤ 'z'.toNat := UInt32.le_iff_toNat_le.mp hlast
  have hz : 'z'.toNat = 122 := rfl
  omega

theorem toNat_lt_of_isDigit {c : Char} (h : c.isDigit) : c.toNat < 128 := by
  have hlast : c.val ≤ '9'.val := of_decide_eq_true ((Bool.and_eq_true _ _).mp h).2
  have hnat : c.toNat ≤ '9'.toNat := UInt32.le_iff_toNat_le.mp hlast
  have hnine : '9'.toNat = 57 := rfl
  omega

theorem toLower_of_not_isUpper {c : Char} (h : c.isUpper = false) : c.toLower = c :=
  dif_neg (of_decide_eq_false h)

/-- `Char.toLower` only knows ASCII. -/
theorem toLower_of_not_ascii {c : Char} (h : ¬ c.toNat < 128) : c.toLower = c := by
  apply toLower_of_not_isUpper
  rw [Bool.eq_false_iff]
  exact fun hc => h (toNat_lt_of_isUpper hc)

theorem toNat_ofNat {n : Nat} (h : n.isValidChar) : (Char.ofNat n).toNat = n := by
  rw [Char.ofNat, dif_pos h]
  rfl

/-- On ASCII text, lowercasing goes character by character. -/
theorem lowerFrom_ascii {cs : List Char} (h : IsAscii cs) (before : List Char) :
    lowerFrom before cs = cs.map Char.toLower := by
  induction cs generalizing before with
  | nil => rfl
  | cons c rest ih =>
    have hne : (c == '\u03A3') = false := by
      rw [beq_eq_false_iff_ne]
      rintro rfl
      exact absurd h.head (by decide)
    rw [lowerFrom, hne, lowerChar_ascii h.head, ih h.tail]
    rfl

/-! ## Runs of a case mapping -/

theorem CaseRun.map?_eq_some_iff {run : CaseRun} {n m : Nat} :
    run.map? n = some m ↔ run.first ≤ n ∧ n ≤ run.last ∧ (n - run.first) % run.step = 0 ∧
      run.image + (n - run.first) = m := by
  unfold CaseRun.map?
  split
  · next h =>
    simp only [Bool.and_eq_true, decide_eq_true_eq, beq_iff_eq] at h
    simp [h]
  · next h =>
    simp only [Bool.and_eq_true, decide_eq_true_eq, beq_iff_eq, not_and] at h
    simp only [reduceCtorEq, false_iff, not_and]
    intro h₁ h₂ h₃
    exact absurd h₃ (h ⟨h₁, h₂⟩)

/-- Whether no image of `run` is a code point of `other`: its images end before, start after, or have
the other parity. -/
def CaseRun.misses (run other : CaseRun) : Bool :=
  -- `Nat.blt` and `Nat.beq` on numerals are single steps for the kernel, `<` and `=` are not
  Nat.blt (run.image + (run.last - run.first)) other.first || Nat.blt other.last run.image ||
    (Nat.beq other.step 2 && (Nat.beq run.step 2 || Nat.beq run.first run.last) &&
      Nat.beq ((run.image + other.first) % 2) 1)

theorem CaseRun.misses_iff {run other : CaseRun} :
    run.misses other ↔ run.image + (run.last - run.first) < other.first ∨ other.last < run.image ∨
      (other.step = 2 ∧ (run.step = 2 ∨ run.first = run.last)) ∧
        (run.image + other.first) % 2 = 1 := by
  simp only [CaseRun.misses, Bool.or_eq_true, Bool.and_eq_true, Nat.blt_eq, Nat.beq_eq, or_assoc]

theorem CaseRun.map?_eq_none_of_misses {run other : CaseRun} (h : run.misses other) {n m : Nat}
    (hm : run.map? n = some m) : other.map? m = none := by
  obtain ⟨hfirst, hlast, hstep, rfl⟩ := CaseRun.map?_eq_some_iff.mp hm
  rw [Option.eq_none_iff_forall_ne_some]
  intro k hk
  obtain ⟨ofirst, olast, ostep, -⟩ := CaseRun.map?_eq_some_iff.mp hk
  rcases CaseRun.misses_iff.mp h with h | h | ⟨⟨htwo, h⟩, hodd⟩
  · omega
  · omega
  · -- `other` holds every second code point, and the images are the ones between
    rw [htwo] at ostep
    rcases h with h | h
    · rw [h] at hstep
      omega
    · omega

/-- A mapping leaves a character as it is, if no run holds it, or follows one of its runs. -/
theorem mapByRuns_cases (runs : List CaseRun) (c : Char) :
    (mapByRuns runs c = c ∧ ∀ run ∈ runs, run.map? c.toNat = none) ∨
      ∃ run ∈ runs, ∃ n, run.map? c.toNat = some n ∧ mapByRuns runs c = Char.ofNat n := by
  unfold mapByRuns
  split
  · next n h =>
    obtain ⟨run, hrun, hn⟩ := List.exists_of_findSome?_eq_some h
    exact Or.inr ⟨run, hrun, n, hn, rfl⟩
  · next h => exact Or.inl ⟨rfl, List.findSome?_eq_none_iff.mp h⟩

theorem mapByRuns_of_forall {runs : List CaseRun} {c : Char}
    (h : ∀ run ∈ runs, run.map? c.toNat = none) : mapByRuns runs c = c := by
  rw [mapByRuns, List.findSome?_eq_none_iff.mpr h]

/-! ## The lowercase table -/

/-- The two characters beyond the table that its images must avoid: the dotted capital I and the long
s, each as a run of its own. -/
def specialRuns : List CaseRun := [⟨0x130, 0x130, 1, 0x130⟩, ⟨0x17F, 0x17F, 1, 0x17F⟩]

/-- No run maps to a code point that is mapped again, or to one of the two special ones. -/
theorem lowercaseRuns_misses :
    (lowercaseRuns.all fun run => (specialRuns ++ lowercaseRuns).all run.misses) = true := by
  decide +kernel

/-- Every run maps to code points of characters, and none of them but the Kelvin sign's is ASCII. -/
theorem lowercaseRuns_image :
    ∀ run ∈ lowercaseRuns, (run.first = 0x212A ∧ run.last = 0x212A ∧ run.image = 0x6B) ∨
      (128 ≤ run.image ∧ run.image + (run.last - run.first) < 0xD800) ∨
      (0xDFFF < run.image ∧ run.image + (run.last - run.first) < 0x110000) := by
  decide +kernel

/-- A character that lowercasing leaves as it is, wherever it stands. -/
def LowerFixed (c : Char) : Prop :=
  lowerChar c = [c] ∧ c ≠ '\u03A3'

instance (c : Char) : Decidable (LowerFixed c) :=
  inferInstanceAs (Decidable (_ ∧ _))

theorem LowerFixed.of_ascii {c : Char} (hc : c.toNat < 128) (h : c.toLower = c) : LowerFixed c := by
  refine ⟨by rw [lowerChar_ascii hc, h], ?_⟩
  rintro rfl
  exact absurd hc (by decide)

/-- A character beyond ASCII that no run holds is fixed, but for the dotted capital I. -/
theorem LowerFixed.of_map?_eq_none {c : Char} (hc : ¬ c.toNat < 128) (hdot : c ≠ '\u0130')
    (h : ∀ run ∈ lowercaseRuns, run.map? c.toNat = none) : LowerFixed c := by
  refine ⟨?_, ?_⟩
  · rw [lowerChar, if_neg hc, if_neg (by simpa using hdot), mapByRuns_of_forall h]
  · rintro rfl
    exact absurd h (by decide +kernel)

/-- The image of a character in the table: the Kelvin sign's is `k`, any other is beyond ASCII; no run
holds it, and it is neither the dotted capital I nor the long s. -/
theorem lowercaseRuns_map? {run : CaseRun} (hrun : run ∈ lowercaseRuns) {n m : Nat}
    (hm : run.map? n = some m) :
    (Char.ofNat m).toNat = m ∧ (n = 0x212A ∧ m = 0x6B ∨ 128 ≤ m) ∧
      ∀ other ∈ specialRuns ++ lowercaseRuns, other.map? m = none := by
  have hmiss : ∀ other ∈ specialRuns ++ lowercaseRuns, other.map? m = none := by
    intro other ho
    have hall := List.all_eq_true.mp lowercaseRuns_misses run hrun
    exact CaseRun.map?_eq_none_of_misses (List.all_eq_true.mp hall other ho) hm
  obtain ⟨hfirst, hlast, -, rfl⟩ := CaseRun.map?_eq_some_iff.mp hm
  refine ⟨?_, ?_, hmiss⟩
  · apply toNat_ofNat
    unfold Nat.isValidChar
    rcases lowercaseRuns_image run hrun with h | h | h <;> omega
  · rcases lowercaseRuns_image run hrun with h | h | h <;> omega

/-- What lowercasing makes of a single character is fixed. -/
theorem lowerFixed_of_mem_lowerChar {c d : Char} (h : d ∈ lowerChar c) : LowerFixed d := by
  by_cases hc : c.toNat < 128
  · rw [lowerChar_ascii hc, List.mem_singleton] at h
    subst h
    exact .of_ascii (toLower_toNat_lt hc)
      (ascii_induction (P := fun c => c.toLower.toLower = c.toLower) (by decide) hc)
  by_cases hdot : c = '\u0130'
  · subst hdot
    rw [lowerChar, if_neg hc, if_pos (by decide)] at h
    rcases List.mem_pair.mp h with rfl | rfl
    · decide
    · decide +kernel
  rw [lowerChar, if_neg hc, if_neg (by simpa using hdot), List.mem_singleton] at h
  subst h
  rcases mapByRuns_cases lowercaseRuns c with ⟨heq, hnone⟩ | ⟨run, hrun, n, hn, heq⟩
  · rw [heq]
    exact .of_map?_eq_none hc hdot hnone
  · -- the character was mapped, and no run holds its image
    obtain ⟨hvalid, hascii, hmiss⟩ := lowercaseRuns_map? hrun hn
    rw [heq]
    rcases hascii with ⟨-, rfl⟩ | hascii
    · decide
    · apply LowerFixed.of_map?_eq_none
      · omega
      · intro hd
        have hspecial := hmiss ⟨0x130, 0x130, 1, 0x130⟩ (by simp [specialRuns])
        rw [show n = 0x130 by rw [← hvalid, hd]; rfl] at hspecial
        exact absurd hspecial (by decide)
      · rw [hvalid]
        exact fun other ho => hmiss other (List.mem_append_right _ ho)

theorem lowerFixed_of_mem_lowerFrom {cs : List Char} {before : List Char} {d : Char}
    (h : d ∈ lowerFrom before cs) : LowerFixed d := by
  induction cs generalizing before with
  | nil => simp [lowerFrom] at h
  | cons c rest ih =>
    rw [lowerFrom, List.mem_append] at h
    rcases h with h | h
    · split at h
      · split at h
        · rw [List.mem_singleton.mp h]
          decide +kernel
        · rw [List.mem_singleton.mp h]
          decide +kernel
      · exact lowerFixed_of_mem_lowerChar h
    · exact ih h

theorem lowerFrom_of_lowerFixed {cs : List Char} (h : ∀ c ∈ cs, LowerFixed c)
    (before : List Char) : lowerFrom before cs = cs := by
  induction cs generalizing before with
  | nil => rfl
  | cons c rest ih =>
    obtain ⟨hc, hne⟩ := h c List.mem_cons_self
    rw [lowerFrom, if_neg (by simpa using hne), hc,
      ih fun d hd => h d (List.mem_cons_of_mem c hd)]
    rfl

/-- Nothing is left to lowercase in a lowercased text. -/
theorem lowercase_lowercase (s : String) : lowercase (lowercase s) = lowercase s := by
  unfold lowercase
  rw [String.toList_ofList, lowerFrom_of_lowerFixed fun d hd => lowerFixed_of_mem_lowerFrom hd]

theorem LowerFixed.isUpper {c : Char} (h : LowerFixed c) : c.isUpper = false := by
  by_cases hc : c.toNat < 128
  · have hself := h.1
    rw [lowerChar_ascii hc, List.singleton_inj] at hself
    exact ascii_induction (P := fun c => c.toLower = c → c.isUpper = false) (by decide) hc hself
  · rw [Bool.eq_false_iff]
    exact fun hupper => hc (toNat_lt_of_isUpper hupper)

/-- No ASCII capital is left in a lowercased text. -/
theorem isUpper_of_mem_lowercase {s : String} {c : Char} (h : c ∈ (lowercase s).toList) :
    c.isUpper = false := by
  rw [lowercase, String.toList_ofList] at h
  exact (lowerFixed_of_mem_lowerFrom h).isUpper

theorem lowerChar_ne_nil (c : Char) : lowerChar c ≠ [] := by
  unfold lowerChar
  split
  · simp
  · split <;> simp

/-- Lowercasing never makes a text empty. -/
theorem lowercase_eq_empty_iff {s : String} : lowercase s = "" ↔ s = "" := by
  unfold lowercase
  rw [← String.toList_inj, ← String.toList_inj, String.toList_ofList, String.toList_empty]
  cases s.toList with
  | nil => simp [lowerFrom]
  | cons c rest =>
    simp only [lowerFrom, List.append_eq_nil_iff, reduceCtorEq, iff_false, not_and]
    intro h
    split at h
    · split at h <;> simp at h
    · exact absurd h (lowerChar_ne_nil c)

/-! ## Hyphens -/

/-- Nothing but a hyphen is lowercased to one. -/
theorem eq_hyphen_of_mem_lowerChar {c : Char} (h : '-' ∈ lowerChar c) : c = '-' := by
  by_cases hc : c.toNat < 128
  · rw [lowerChar_ascii hc] at h
    exact ascii_induction (P := fun c => '-' ∈ [c.toLower] → c = '-') (by decide) hc h
  by_cases hdot : c = '\u0130'
  · subst hdot
    exact absurd h (by decide)
  rw [lowerChar, if_neg hc, if_neg (by simpa using hdot), List.mem_singleton] at h
  rcases mapByRuns_cases lowercaseRuns c with ⟨heq, -⟩ | ⟨run, hrun, n, hn, heq⟩
  · rw [← heq, h]
  · -- the image of a character beyond ASCII is the letter k, or beyond ASCII too
    obtain ⟨hvalid, hascii, -⟩ := lowercaseRuns_map? hrun hn
    rw [← heq, ← h] at hvalid
    have hhyphen : '-'.toNat = 45 := rfl
    omega

theorem hyphen_mem_of_mem_lowerFrom {cs before : List Char} (h : '-' ∈ lowerFrom before cs) :
    '-' ∈ cs := by
  induction cs generalizing before with
  | nil => exact h
  | cons c rest ih =>
    rw [lowerFrom, List.mem_append] at h
    rcases h with h | h
    · split at h
      · -- neither form of the small sigma is a hyphen
        split at h
        · exact absurd h (by decide)
        · exact absurd h (by decide)
      · rw [eq_hyphen_of_mem_lowerChar h]
        exact List.mem_cons_self
    · exact List.mem_cons_of_mem c (ih h)

/-! ## Folding -/

/-- Beyond ASCII only the long s and the Kelvin sign fold to something else. -/
theorem foldChar_of_not_ascii {c : Char} (h : ¬ c.toNat < 128) (hs : c ≠ '\u017F')
    (hk : c ≠ '\u212A') : foldChar c = c := by
  rw [foldChar, if_neg (by simpa using hs), if_neg (by simpa using hk), toLower_of_not_ascii h]

/-- A character that folds to ASCII is an ASCII character, the long s or the Kelvin sign. -/
theorem ascii_or_of_foldChar {c : Char} (h : (foldChar c).toNat < 128) :
    c.toNat < 128 ∨ c = '\u017F' ∨ c = '\u212A' := by
  by_contra hcon
  simp only [not_or] at hcon
  rw [foldChar_of_not_ascii hcon.1 hcon.2.1 hcon.2.2] at h
  exact hcon.1 h

/-- Uppercasing a character that folds to ASCII does not change what it folds to. -/
theorem map_foldChar_upperChar {c : Char} (h : (foldChar c).toNat < 128) :
    (upperChar c).map foldChar = [foldChar c] := by
  rcases ascii_or_of_foldChar h with hc | rfl | rfl
  · rw [upperChar_ascii hc]
    exact ascii_induction (P := fun c => [c.toUpper].map foldChar = [foldChar c]) (by decide) hc
  · decide +kernel
  · decide +kernel

/-- Where the lowercase form of a character folds to ASCII, the character folds to the same. -/
theorem map_foldChar_lowerChar {c : Char} (h : IsAscii ((lowerChar c).map foldChar)) :
    (lowerChar c).map foldChar = [foldChar c] := by
  by_cases hc : c.toNat < 128
  · rw [lowerChar_ascii hc]
    exact ascii_induction (P := fun c => [c.toLower].map foldChar = [foldChar c]) (by decide) hc
  by_cases hdot : c = '\u0130'
  · subst hdot
    exact absurd h (by decide)
  rw [lowerChar, if_neg hc, if_neg (by simpa using hdot)] at h ⊢
  rcases mapByRuns_cases lowercaseRuns c with ⟨heq, -⟩ | ⟨run, hrun, n, hn, heq⟩
  · rw [heq]
    rfl
  rw [heq] at h ⊢
  obtain ⟨hvalid, ⟨hkelvin, rfl⟩ | hascii, hmiss⟩ := lowercaseRuns_map? hrun hn
  · rw [← Char.ofNat_toNat c, hkelvin]
    decide
  -- the image is beyond ASCII and neither special sign, so it cannot fold to ASCII
  · have hfold := ascii_or_of_foldChar (IsAscii.head h)
    rcases hfold with hfold | hfold | hfold
    · omega
    · have hspecial := hmiss ⟨0x17F, 0x17F, 1, 0x17F⟩ (by simp [specialRuns])
      rw [show n = 0x17F by rw [← hvalid, hfold]; rfl] at hspecial
      exact absurd hspecial (by decide)
    · rw [show n = 0x212A by rw [← hvalid, hfold]; rfl] at hmiss
      exact absurd hmiss (by decide +kernel)

/-- Lowercasing a character that folds to ASCII does not change what it folds to. -/
theorem map_foldChar_lowerChar_of_ascii {c : Char} (h : (foldChar c).toNat < 128) :
    (lowerChar c).map foldChar = [foldChar c] := by
  rcases ascii_or_of_foldChar h with hc | rfl | rfl
  · rw [lowerChar_ascii hc]
    exact ascii_induction (P := fun c => [c.toLower].map foldChar = [foldChar c]) (by decide) hc
  · decide +kernel
  · decide +kernel

/-- Folding to ASCII does not see whether a text was lowercased first. -/
theorem map_foldChar_lowerFrom {cs : List Char} (before : List Char)
    (h : IsAscii ((lowerFrom before cs).map foldChar)) :
    (lowerFrom before cs).map foldChar = cs.map foldChar := by
  induction cs generalizing before with
  | nil => rfl
  | cons c rest ih =>
    rw [lowerFrom, List.map_append] at h ⊢
    have hrest := ih (c :: before) fun d hd => h d (List.mem_append_right _ hd)
    rw [hrest]
    by_cases hsigma : (c == '\u03A3') = true
    · -- neither form of the small sigma folds to ASCII
      rw [if_pos hsigma] at h
      split at h
      · exact absurd (h '\u03C2' (by simp +decide)) (by decide)
      · exact absurd (h '\u03C3' (by simp +decide)) (by decide)
    · rw [if_neg hsigma] at h ⊢
      rw [map_foldChar_lowerChar fun d hd => h d (List.mem_append_left _ hd)]
      rfl

/-- What folds to ASCII still does so when it is lowercased. -/
theorem map_foldChar_lowerFrom_of_ascii {cs : List Char} (before : List Char)
    (h : IsAscii (cs.map foldChar)) : (lowerFrom before cs).map foldChar = cs.map foldChar := by
  induction cs generalizing before with
  | nil => rfl
  | cons c rest ih =>
    rw [List.map_cons] at h
    have hsigma : (c == '\u03A3') = false := by
      rw [beq_eq_false_iff_ne]
      rintro rfl
      exact absurd h.head (by decide)
    rw [lowerFrom, hsigma, if_neg Bool.false_ne_true, List.map_append,
      map_foldChar_lowerChar_of_ascii h.head, ih (c :: before) h.tail, List.map_cons]
    rfl

theorem foldsTo_iff {s word : String} : foldsTo s word ↔ s.toList.map foldChar = word.toList := by
  rw [foldsTo, beq_iff_eq]

/-- A text that folds to one without hyphens has none. -/
theorem hyphen_not_mem_of_map_foldChar {cs folded : List Char} (h : cs.map foldChar = folded)
    (hhyphen : '-' ∉ folded) : '-' ∉ cs := by
  intro hmem
  rw [← h] at hhyphen
  exact hhyphen (List.mem_map.mpr ⟨'-', hmem, by decide⟩)

/-- A lowercased text folds to an ASCII word only if the text does. -/
theorem foldsTo_of_foldsTo_lowercase {s word : String} (hword : IsAscii word.toList)
    (h : foldsTo (lowercase s) word) : foldsTo s word := by
  rw [foldsTo_iff, lowercase, String.toList_ofList] at h
  rw [foldsTo_iff, ← map_foldChar_lowerFrom [] (by rwa [h]), h]

/-- Lowercasing a text does not change which ASCII words it folds to. -/
theorem foldsTo_lowercase {s word : String} (hword : IsAscii word.toList) :
    foldsTo (lowercase s) word = foldsTo s word := by
  rw [Bool.eq_iff_iff]
  constructor
  · exact foldsTo_of_foldsTo_lowercase hword
  · intro h
    rw [foldsTo_iff] at h ⊢
    rw [lowercase, String.toList_ofList, map_foldChar_lowerFrom_of_ascii [] (by rwa [h]), h]

end ComponentTags.Text
