import ComponentTags.Name
import ComponentTags.Proofs.Text.Casing

/-!
# Hyphenation

`splitPairs` skips every other capital of a run, so `hyphenate` makes two passes of it. `splitCapitals`
says in one pass what they amount to: a hyphen before every ASCII capital that is neither first nor right
after a hyphen (`splitPairs_splitPairs`). `withHyphens` says the same of each position by itself. All that
later modules know of `hyphenate` goes through `hyphenate_eq`.

After the second pass there is nothing left to split, and after lowercasing there is no capital, so neither
another pass nor hyphenating again changes anything (`two_passes_suffice`).
-/

namespace ComponentTags.Name

open Text

/-! ## Two passes in one -/

/-- Puts a hyphen before every ASCII capital that is not right after a hyphen. `previous` is the
character before the text. -/
def splitAfter (previous : Char) : List Char → List Char
  | [] => []
  | c :: rest =>
    if previous != '-' && c.isUpper then '-' :: c :: splitAfter c rest else c :: splitAfter c rest

/-- Puts a hyphen before every ASCII capital that is neither first nor right after a hyphen. -/
def splitCapitals : List Char → List Char
  | [] => []
  | c :: rest => c :: splitAfter c rest

/-- A text that starts is like a text after a hyphen. -/
theorem splitAfter_hyphen (cs : List Char) : splitAfter '-' cs = splitCapitals cs := by
  cases cs with
  | nil => rfl
  | cons c rest => simp [splitAfter, splitCapitals]

theorem splitAfter_of_pair {a b : Char} (h : (a != '-' && b.isUpper) = true) (rest : List Char) :
    splitAfter a (b :: rest) = '-' :: b :: splitAfter b rest := by
  rw [splitAfter, if_pos h]

theorem splitAfter_of_not_pair {a b : Char} (h : ¬(a != '-' && b.isUpper) = true)
    (rest : List Char) : splitAfter a (b :: rest) = b :: splitAfter b rest := by
  rw [splitAfter, if_neg h]

theorem splitPairs_of_pair {a b : Char} (h : (a != '-' && b.isUpper) = true) (rest : List Char) :
    splitPairs (a :: b :: rest) = a :: '-' :: b :: splitPairs rest := by
  rw [splitPairs, if_pos h]

theorem splitPairs_of_not_pair {a b : Char} (h : ¬(a != '-' && b.isUpper) = true)
    (rest : List Char) : splitPairs (a :: b :: rest) = a :: splitPairs (b :: rest) := by
  rw [splitPairs, if_neg h]

theorem splitPairs_hyphen (cs : List Char) : splitPairs ('-' :: cs) = '-' :: splitPairs cs := by
  cases cs with
  | nil => rfl
  | cons c rest => exact splitPairs_of_not_pair (by simp) rest

/-- A hyphen before a text takes no part in splitting it, so it can be left away. -/
theorem splitPairs_splitPairs_of_hyphen {cs : List Char}
    (h : splitPairs ('-' :: splitPairs cs) = '-' :: splitAfter '-' cs) :
    splitPairs (splitPairs cs) = splitCapitals cs := by
  rw [splitPairs_hyphen, splitAfter_hyphen] at h
  exact (List.cons.inj h).2

/-- The second pass over what the first pass made of a text, started one character earlier. The
induction is along the first pass: where it splits a pair, the second pass meets the hyphen and starts
again at the capital after it, so the character before the rest changes. -/
theorem splitPairs_cons_splitPairs (a : Char) (cs : List Char) :
    splitPairs (a :: splitPairs cs) = a :: splitAfter a cs := by
  fun_induction splitPairs cs generalizing a with
  | case1 b c rest hpair ih =>
    have hsecond : splitPairs ('-' :: c :: splitPairs rest) = '-' :: c :: splitAfter c rest := by
      rw [splitPairs_hyphen, ih]
    have hnot : ¬(b != '-' && '-'.isUpper) = true := by simp
    by_cases h : (a != '-' && b.isUpper) = true
    · rw [splitPairs_of_pair h, splitAfter_of_pair h, splitAfter_of_pair hpair, hsecond]
    · rw [splitPairs_of_not_pair h, splitPairs_of_not_pair hnot, splitAfter_of_not_pair h,
        splitAfter_of_pair hpair, hsecond]
  | case2 b c rest hpair ih =>
    by_cases h : (a != '-' && b.isUpper) = true
    · have hstart : splitPairs (splitPairs (c :: rest)) = c :: splitAfter c rest :=
        splitPairs_splitPairs_of_hyphen (ih '-')
      rw [splitPairs_of_pair h, hstart, splitAfter_of_pair h, splitAfter_of_not_pair hpair]
    · rw [splitPairs_of_not_pair h, ih, splitAfter_of_not_pair h]
  | case3 b =>
    by_cases h : (a != '-' && b.isUpper) = true
    · rw [splitPairs_of_pair h, splitAfter_of_pair h]
      rfl
    · rw [splitPairs_of_not_pair h, splitAfter_of_not_pair h]
      rfl
  | case4 => rfl

/-- Two passes reach every capital of a run, however long it is. -/
theorem splitPairs_splitPairs (cs : List Char) : splitPairs (splitPairs cs) = splitCapitals cs :=
  splitPairs_splitPairs_of_hyphen (splitPairs_cons_splitPairs '-' cs)

/-- Hyphenating is splitting at the capitals and lowercasing. -/
theorem hyphenate_eq (s : String) :
    hyphenate s = lowercase (String.ofList (splitCapitals s.toList)) := by
  rw [hyphenate, splitPairs_splitPairs]

/-! ## Position by position -/

/-- A hyphen belongs before the character at a position if it is an ASCII capital that is neither first
nor right after a hyphen. -/
def BreaksAt (cs : List Char) (i : Nat) : Prop :=
  i ≠ 0 ∧ cs[i - 1]? ≠ some '-' ∧ cs[i]?.any Char.isUpper

instance (cs : List Char) (i : Nat) : Decidable (BreaksAt cs i) :=
  inferInstanceAs (Decidable (_ ∧ _ ∧ _))

/-- What the character at a position becomes. -/
def pieceAt (cs : List Char) (entry : Char × Nat) : List Char :=
  if BreaksAt cs entry.2 then ['-', entry.1] else [entry.1]

/-- The text with one hyphen put in before each character that one belongs before. -/
def withHyphens (cs : List Char) : List Char :=
  cs.zipIdx.flatMap (pieceAt cs)

theorem breaksAt_append_iff (front rest : List Char) (previous c : Char) :
    BreaksAt (front ++ previous :: c :: rest) (front.length + 1) ↔
      (previous != '-' && c.isUpper) = true := by
  have hprevious : (front ++ previous :: c :: rest)[front.length + 1 - 1]? = some previous := by simp
  have hc : (front ++ previous :: c :: rest)[front.length + 1]? = some c := by simp
  rw [BreaksAt, hprevious, hc]
  simp

/-- The pieces of the text behind a character are what splitting makes of that text. -/
theorem flatMap_pieceAt (front cs : List Char) (previous : Char) :
    (cs.zipIdx (front.length + 1)).flatMap (pieceAt (front ++ previous :: cs)) =
      splitAfter previous cs := by
  induction cs generalizing front previous with
  | nil => rfl
  | cons c rest ih =>
    -- the character goes over to the front, so the positions go on in one and the same text
    have hrest := ih (front ++ [previous]) c
    rw [List.length_append, List.length_singleton, List.append_assoc, List.singleton_append] at hrest
    rw [List.zipIdx_cons, List.flatMap_cons, hrest, pieceAt]
    by_cases hpair : (previous != '-' && c.isUpper) = true
    · rw [if_pos ((breaksAt_append_iff front rest previous c).mpr hpair), splitAfter_of_pair hpair]
      rfl
    · rw [if_neg (mt (breaksAt_append_iff front rest previous c).mp hpair),
        splitAfter_of_not_pair hpair]
      rfl

theorem splitCapitals_eq_withHyphens (cs : List Char) : splitCapitals cs = withHyphens cs := by
  cases cs with
  | nil => rfl
  | cons c rest =>
    have hfirst : pieceAt (c :: rest) (c, 0) = [c] := if_neg fun h => h.1 rfl
    have hrest : (rest.zipIdx 1).flatMap (pieceAt (c :: rest)) = splitAfter c rest :=
      flatMap_pieceAt [] rest c
    rw [withHyphens, List.zipIdx_cons, List.flatMap_cons, hfirst, hrest, splitCapitals]
    rfl

example : withHyphens "XMLHttp-ABc".toList = "X-M-L-Http-A-Bc".toList := by decide

/-! ## What hyphenating keeps -/

/-- Text without capitals is left as it is. -/
theorem splitAfter_of_forall {cs : List Char} {previous : Char} (h : ∀ c ∈ cs, c.isUpper = false) :
    splitAfter previous cs = cs := by
  induction cs generalizing previous with
  | nil => rfl
  | cons c cs ih =>
    obtain ⟨hc, hrest⟩ := List.forall_mem_cons.mp h
    rw [splitAfter_of_not_pair (by simp [hc]), ih hrest]

theorem splitAfter_of_hyphen_not_mem {cs : List Char} {previous : Char}
    (h : '-' ∉ splitAfter previous cs) : splitAfter previous cs = cs := by
  induction cs generalizing previous with
  | nil => rfl
  | cons c rest ih =>
    by_cases hpair : (previous != '-' && c.isUpper) = true
    · rw [splitAfter_of_pair hpair] at h
      exact absurd List.mem_cons_self h
    · rw [splitAfter_of_not_pair hpair] at h ⊢
      rw [ih fun hmem => h (List.mem_cons_of_mem c hmem)]

/-- Where splitting puts no hyphen in, it changes nothing. -/
theorem splitCapitals_of_hyphen_not_mem {cs : List Char} (h : '-' ∉ splitCapitals cs) :
    splitCapitals cs = cs := by
  rw [← splitAfter_hyphen] at h ⊢
  exact splitAfter_of_hyphen_not_mem h

/-- There is nothing to lowercase in a hyphenated name. -/
theorem lowercase_hyphenate (s : String) : lowercase (hyphenate s) = hyphenate s :=
  lowercase_lowercase _

theorem hyphenate_eq_empty_iff {s : String} : hyphenate s = "" ↔ s = "" := by
  rw [hyphenate_eq, lowercase_eq_empty_iff, ← String.toList_inj, ← String.toList_inj,
    String.toList_ofList, String.toList_empty]
  cases s.toList <;> simp [splitCapitals]

/-- A hyphenated name folds to an ASCII word without hyphens only if the name itself does: splitting
must then have put no hyphen in. -/
theorem foldsTo_of_foldsTo_hyphenate {s word : String} (hword : IsAscii word.toList)
    (hhyphen : '-' ∉ word.toList) (h : foldsTo (hyphenate s) word) : foldsTo s word := by
  rw [hyphenate_eq] at h
  have hsplit := foldsTo_of_foldsTo_lowercase hword h
  rw [foldsTo_iff, String.toList_ofList] at hsplit
  have hmem : '-' ∉ splitCapitals s.toList := hyphen_not_mem_of_map_foldChar hsplit hhyphen
  rwa [splitCapitals_of_hyphen_not_mem hmem, ← foldsTo_iff] at hsplit

/-! ## Hyphenating again -/

/-- No ASCII capital stands right after a character other than a hyphen. -/
def IsSplit (cs : List Char) : Prop :=
  cs.IsChain fun a b => ¬(a != '-' && b.isUpper) = true

/-- Where every capital is split off, a pass changes nothing. -/
theorem splitPairs_of_isSplit {cs : List Char} (h : IsSplit cs) : splitPairs cs = cs := by
  fun_induction splitPairs cs with
  | case1 a b rest hpair ih => exact absurd hpair (List.isChain_cons_cons.mp h).1
  | case2 a b rest hpair ih => rw [ih (List.isChain_cons_cons.mp h).2]
  | case3 a => rfl
  | case4 => rfl

theorem isSplit_cons_splitAfter (previous : Char) (cs : List Char) :
    IsSplit (previous :: splitAfter previous cs) := by
  induction cs generalizing previous with
  | nil => exact .singleton previous
  | cons c rest ih =>
    by_cases hpair : (previous != '-' && c.isUpper) = true
    · -- the hyphen is no capital, and the capital comes after the hyphen
      rw [splitAfter_of_pair hpair]
      exact .cons_cons (by simp) (.cons_cons (by simp) (ih c))
    · rw [splitAfter_of_not_pair hpair]
      exact .cons_cons hpair (ih c)

theorem isSplit_splitCapitals (cs : List Char) : IsSplit (splitCapitals cs) := by
  cases cs with
  | nil => exact .nil
  | cons c rest => exact isSplit_cons_splitAfter c rest

/-- A hyphenated name is hyphenated already. -/
theorem hyphenate_hyphenate (s : String) : hyphenate (hyphenate s) = hyphenate s := by
  have hcapitals : ∀ c ∈ (hyphenate s).toList, c.isUpper = false :=
    fun c hc => isUpper_of_mem_lowercase hc
  rw [hyphenate_eq (hyphenate s), ← splitAfter_hyphen, splitAfter_of_forall hcapitals,
    String.ofList_toList, lowercase_hyphenate]

/-- Hyphenating puts one hyphen before every ASCII capital that is neither the first character nor right
after a hyphen, changes nothing else, and lowercases the outcome. A third pass over the capitals would
change nothing, and neither does hyphenating what was hyphenated. -/
theorem two_passes_suffice (s : String) :
    hyphenate s = lowercase (String.ofList (withHyphens s.toList)) ∧
      splitPairs (splitPairs (splitPairs s.toList)) = splitPairs (splitPairs s.toList) ∧
      hyphenate (hyphenate s) = hyphenate s := by
  refine ⟨?_, ?_, hyphenate_hyphenate s⟩
  · rw [hyphenate_eq, splitCapitals_eq_withHyphens]
  · rw [splitPairs_splitPairs s.toList, splitPairs_of_isSplit (isSplit_splitCapitals s.toList)]

end ComponentTags.Name
