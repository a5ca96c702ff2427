import ComponentTags.Proofs.Name.Hyphenation

/-!
# The spellings of an id

A component is found under the spelling a template writes, under its camel-case form, or under that with
a capital at its head. `LeadsTo` names the three, and this file says when the hyphenated spelling of an id
leads back to the id:

* camelizing what was hyphenated gives the camel-case form of the id, but for the case of the head
  (`leadsTo_camelize`);
* so an ASCII id is found under its hyphenated spelling exactly if hyphenating or camelizing leaves it as
  it is (`leadsTo_hyphenate_iff`).
-/

namespace ComponentTags.Name

open Text

/-- Looking up a spelling finds this id, if it is registered. -/
def LeadsTo (spelling id : String) : Prop :=
  id = spelling ∨ id = camelize spelling ∨ id = capitalize (camelize spelling)

instance (spelling id : String) : Decidable (LeadsTo spelling id) :=
  inferInstanceAs (Decidable (_ ∨ _ ∨ _))

/-! ## Case of ASCII characters -/

theorem isWord_toLower {c : Char} (h : c.toNat < 128) : isWord c.toLower = isWord c :=
  ascii_induction (P := fun c => isWord c.toLower = isWord c) (by decide) h

theorem isWord_of_isUpper {c : Char} (h : c.isUpper) : isWord c :=
  ascii_induction (P := fun c => c.isUpper → isWord c) (by decide) (toNat_lt_of_isUpper h) h

theorem upperChar_toLower {c : Char} (h : c.toNat < 128) : upperChar c.toLower = upperChar c :=
  ascii_induction (P := fun c => upperChar c.toLower = upperChar c) (by decide) h

theorem upperChar_of_isUpper {c : Char} (h : c.isUpper) : upperChar c = [c] :=
  ascii_induction (P := fun c => c.isUpper → upperChar c = [c]) (by decide)
    (toNat_lt_of_isUpper h) h

theorem isUpper_toLower {c : Char} (h : c.toNat < 128) : c.toLower.isUpper = false :=
  ascii_induction (P := fun c => c.toLower.isUpper = false) (by decide) h

theorem toLower_ne_hyphen {c : Char} (h : c.toNat < 128) (hc : c ≠ '-') : c.toLower ≠ '-' :=
  ascii_induction (P := fun c => c ≠ '-' → c.toLower ≠ '-') (by decide) h hc

theorem ne_hyphen_of_isWord {c : Char} (h : isWord c) : c ≠ '-' := by
  rintro rfl
  exact absurd h (by decide)

/-! ## Camelizing -/

theorem camelizeChars_of_isWord {c : Char} (h : isWord c) (rest : List Char) :
    camelizeChars ('-' :: c :: rest) = upperChar c ++ camelizeChars rest := by
  rw [camelizeChars, if_pos h]

theorem camelizeChars_of_not_isWord {c : Char} (h : ¬isWord c) (rest : List Char) :
    camelizeChars ('-' :: c :: rest) = '-' :: camelizeChars (c :: rest) := by
  rw [camelizeChars, if_neg h]

theorem camelizeChars_cons {c : Char} (h : c ≠ '-') (rest : List Char) :
    camelizeChars (c :: rest) = c :: camelizeChars rest := by
  rw [camelizeChars]
  intro _ _ hc
  exact absurd hc h

/-- Without hyphens there is nothing to camelize. -/
theorem camelizeChars_of_hyphen_not_mem {cs : List Char} (h : '-' ∉ cs) :
    camelizeChars cs = cs := by
  induction cs with
  | nil => rfl
  | cons c rest ih =>
    have hc : c ≠ '-' := by
      rintro rfl
      exact h List.mem_cons_self
    rw [camelizeChars_cons hc, ih fun hmem => h (List.mem_cons_of_mem c hmem)]

theorem camelize_of_hyphen_not_mem {s : String} (h : '-' ∉ s.toList) : camelize s = s := by
  rw [camelize, camelizeChars_of_hyphen_not_mem h, String.ofList_toList]

/-- Camelizing an ASCII text changes nothing, or drops a hyphen. -/
theorem camelizeChars_eq_or_length_lt {cs : List Char} (h : IsAscii cs) :
    camelizeChars cs = cs ∨ (camelizeChars cs).length < cs.length := by
  fun_induction camelizeChars cs with
  | case1 c rest hword ih =>
    right
    rw [upperChar_ascii h.tail.head]
    rcases ih h.tail.tail with heq | hlt
    · simp [heq]
    · simp only [List.length_cons, List.length_append, List.length_nil]
      omega
  | case2 c rest hword ih =>
    rcases ih h.tail with heq | hlt
    · exact Or.inl (by rw [heq])
    · exact Or.inr (by simpa using hlt)
  | case3 c rest hne ih =>
    rcases ih h.tail with heq | hlt
    · exact Or.inl (by rw [heq])
    · exact Or.inr (by simpa using hlt)
  | case4 => exact Or.inl rfl

theorem isAscii_camelizeChars {cs : List Char} (h : IsAscii cs) : IsAscii (camelizeChars cs) := by
  fun_induction camelizeChars cs with
  | case1 c rest hword ih =>
    have hupper : c.toUpper.toNat < 128 :=
      ascii_induction (P := fun c => c.toUpper.toNat < 128) (by decide) h.tail.head
    rw [upperChar_ascii h.tail.head]
    exact .cons hupper (ih h.tail.tail)
  | case2 c rest hword ih => exact .cons (by decide) (ih h.tail)
  | case3 c rest hne ih => exact .cons h.head (ih h.tail)
  | case4 => exact h

theorem toList_capitalize {s : String} {c : Char} {rest : List Char} (h : s.toList = c :: rest) :
    (capitalize s).toList = upperChar c ++ rest := by
  rw [capitalize, h, String.toList_ofList]

theorem length_capitalize {s : String} (h : IsAscii s.toList) :
    (capitalize s).toList.length = s.toList.length := by
  cases hs : s.toList with
  | nil => rw [capitalize, hs, hs]
  | cons c rest =>
    rw [hs] at h
    rw [toList_capitalize hs, upperChar_ascii h.head]
    rfl

/-! ## Camelizing what was hyphenated -/

/-- A hyphen of the text stays, whatever comes before it. -/
theorem map_toLower_splitAfter_hyphen (previous : Char) (cs : List Char) :
    (splitAfter previous ('-' :: cs)).map Char.toLower =
      '-' :: (splitAfter '-' cs).map Char.toLower := by
  rw [splitAfter_of_not_pair (by simp), List.map_cons]
  rfl

/-- A capital that a hyphen was put before comes back, and the hyphen goes. -/
theorem camelizeChars_toLower_capital {c : Char} (h : c.isUpper) (cs : List Char) :
    camelizeChars (('-' :: c :: cs).map Char.toLower) = c :: camelizeChars (cs.map Char.toLower) := by
  have hc : c.toNat < 128 := toNat_lt_of_isUpper h
  have hlower : isWord c.toLower := by
    rw [isWord_toLower hc]
    exact isWord_of_isUpper h
  rw [List.map_cons, List.map_cons, show '-'.toLower = '-' from rfl, camelizeChars_of_isWord hlower,
    upperChar_toLower hc, upperChar_of_isUpper h]
  rfl

/-- A character that no hyphen is put before is no capital, if it is none right after a hyphen. -/
theorem isUpper_eq_false_of_not_pair {previous c : Char}
    (hpair : ¬(previous != '-' && c.isUpper) = true) (h : previous = '-' → c.isUpper = false) :
    c.isUpper = false := by
  by_cases hprevious : previous = '-'
  · exact h hprevious
  · simpa [hprevious] using hpair

/-- Camelizing takes back the hyphens that splitting put in, and capitalizes again what was lowercased
after them. Only a capital right at the start, after which no hyphen was put in, stays small: `h`
excludes it. -/
theorem camelizeChars_toLower_splitAfter {cs : List Char} (previous : Char) (hascii : IsAscii cs)
    (h : previous = '-' → ∀ c ∈ cs.head?, c.isUpper = false) :
    camelizeChars ((splitAfter previous cs).map Char.toLower) = camelizeChars cs := by
  fun_induction camelizeChars cs generalizing previous with
  | case1 c rest hword ih =>
    -- a hyphen before a word character: dropped in either case
    have hc := hascii.tail.head
    have hlower : isWord c.toLower := by rwa [isWord_toLower hc]
    have hne : c ≠ '-' := ne_hyphen_of_isWord hword
    have ih' := ih c hascii.tail.tail fun heq => absurd heq hne
    rw [map_toLower_splitAfter_hyphen, splitAfter_of_not_pair (by simp), List.map_cons,
      camelizeChars_of_isWord hlower, ih', upperChar_toLower hc]
  | case2 c rest hword ih =>
    -- a hyphen that stays: what follows is no word character, so no capital
    have hlower : ¬isWord c.toLower := by rwa [isWord_toLower hascii.tail.head]
    have hcap : c.isUpper = false := by
      rw [Bool.eq_false_iff]
      exact fun hup => hword (isWord_of_isUpper hup)
    have ih' := ih '-' hascii.tail fun _ => by simpa using hcap
    rw [splitAfter_of_not_pair (by simp), List.map_cons] at ih'
    rw [map_toLower_splitAfter_hyphen, splitAfter_of_not_pair (by simp), List.map_cons,
      camelizeChars_of_not_isWord hlower, ih']
  | case3 c rest hne ih =>
    by_cases hpair : (previous != '-' && c.isUpper) = true
    · -- a capital that a hyphen was put before
      have hup : c.isUpper := (Bool.and_eq_true _ _ ▸ hpair).2
      have hch : c ≠ '-' := ne_hyphen_of_isWord (isWord_of_isUpper hup)
      rw [splitAfter_of_pair hpair, camelizeChars_toLower_capital hup,
        ih c hascii.tail fun heq => absurd heq hch]
    · have hcap := isUpper_eq_false_of_not_pair hpair fun hprevious => h hprevious c rfl
      rw [splitAfter_of_not_pair hpair, List.map_cons, toLower_of_not_isUpper hcap]
      by_cases hch : c = '-'
      · -- a hyphen with nothing after it
        cases rest with
        | nil =>
          subst hch
          rfl
        | cons d more => exact absurd rfl (hne d more hch)
      · rw [camelizeChars_cons hch, ih c hascii.tail fun heq => absurd heq hch]
  | case4 => rfl

theorem isAscii_splitAfter {cs : List Char} {previous : Char} (h : IsAscii cs) :
    IsAscii (splitAfter previous cs) := by
  induction cs generalizing previous with
  | nil => exact h
  | cons c rest ih =>
    have hrest : IsAscii (c :: splitAfter c rest) := .cons h.head (ih h.tail)
    rw [splitAfter]
    split
    · exact .cons (by decide) hrest
    · exact hrest

/-- On ASCII names, hyphenating is splitting and then lowercasing each character. -/
theorem toList_hyphenate {s : String} (h : IsAscii s.toList) :
    (hyphenate s).toList = (splitCapitals s.toList).map Char.toLower := by
  rw [hyphenate_eq, lowercase, String.toList_ofList, String.toList_ofList, lowerFrom_ascii]
  rw [← splitAfter_hyphen]
  exact isAscii_splitAfter h

/-- Only a capital at the head of a name gets no hyphen, so names are told apart by their heads. -/
theorem head_cases (s : String) :
    (∀ c ∈ s.toList.head?, c.isUpper = false) ∨
      ∃ c rest, s.toList = c :: rest ∧ c.isUpper = true := by
  cases hs : s.toList with
  | nil => exact Or.inl (by simp)
  | cons c rest =>
    by_cases hup : c.isUpper = true
    · exact Or.inr ⟨c, rest, rfl, hup⟩
    · exact Or.inl (by simpa using hup)

/-- Camelizing the hyphenated form of a name that does not start with a capital. -/
theorem camelize_hyphenate {s : String} (hascii : IsAscii s.toList)
    (h : ∀ c ∈ s.toList.head?, c.isUpper = false) : camelize (hyphenate s) = camelize s := by
  rw [camelize, toList_hyphenate hascii, ← splitAfter_hyphen,
    camelizeChars_toLower_splitAfter '-' hascii fun _ => h, camelize]

/-- Camelizing the hyphenated form of a name that starts with a capital: the head stays small. -/
theorem camelize_hyphenate_of_isUpper {s : String} {c : Char} {rest : List Char}
    (hs : s.toList = c :: rest) (hascii : IsAscii s.toList) (h : c.isUpper) :
    (camelize (hyphenate s)).toList = c.toLower :: camelizeChars rest := by
  rw [hs] at hascii
  have hc : c ≠ '-' := ne_hyphen_of_isWord (isWord_of_isUpper h)
  rw [camelize, String.toList_ofList, toList_hyphenate (by rwa [hs]), hs, splitCapitals,
    List.map_cons, camelizeChars_cons (toLower_ne_hyphen hascii.head hc),
    camelizeChars_toLower_splitAfter c hascii.tail fun heq => absurd heq hc]

/-- With its head capitalized again, that is the camel-case form of the name. -/
theorem capitalize_camelize_hyphenate {s : String} {c : Char} {rest : List Char}
    (hs : s.toList = c :: rest) (hascii : IsAscii s.toList) (h : c.isUpper) :
    capitalize (camelize (hyphenate s)) = camelize s := by
  have hhead := camelize_hyphenate_of_isUpper hs hascii h
  have hc : c ≠ '-' := ne_hyphen_of_isWord (isWord_of_isUpper h)
  rw [hs] at hascii
  rw [← String.toList_inj, toList_capitalize hhead, upperChar_toLower hascii.head,
    upperChar_of_isUpper h, camelize, String.toList_ofList, hs, camelizeChars_cons hc]
  rfl

/-! ## From the hyphenated spelling back to the id -/

/-- The hyphenated spelling of an ASCII name leads to its camel-case form. -/
theorem leadsTo_camelize {s : String} (h : IsAscii s.toList) :
    LeadsTo (hyphenate s) (camelize s) := by
  rcases head_cases s with hcap | ⟨c, rest, hs, hup⟩
  · exact Or.inr (Or.inl (camelize_hyphenate h hcap).symm)
  · exact Or.inr (Or.inr (capitalize_camelize_hyphenate hs h hup).symm)

/-- If camelizing and then capitalizing an ASCII name gives it back, camelizing alone does: it would
else have dropped a hyphen. -/
theorem camelize_eq_of_capitalize {s : String} (hascii : IsAscii s.toList)
    (h : s = capitalize (camelize s)) : camelize s = s := by
  -- uppercasing an ASCII head keeps the length, dropping a hyphen does not
  have hlength : s.toList.length = (camelizeChars s.toList).length := by
    have hcamel : IsAscii (camelize s).toList := by
      rw [camelize, String.toList_ofList]
      exact isAscii_camelizeChars hascii
    have hcap := length_capitalize hcamel
    rw [← h, camelize, String.toList_ofList] at hcap
    exact hcap
  rcases camelizeChars_eq_or_length_lt hascii with heq | hlt
  · rw [camelize, heq, String.ofList_toList]
  · omega

/-- An ASCII id is found under its hyphenated spelling exactly if it is hyphenated already, or no hyphen
of it stands before a word character. -/
theorem leadsTo_hyphenate_iff {s : String} (hascii : IsAscii s.toList) :
    LeadsTo (hyphenate s) s ↔ hyphenate s = s ∨ camelize s = s := by
  constructor
  · intro h
    rcases h with h | h | h
    · exact Or.inl h.symm
    · right
      rcases head_cases s with hcap | ⟨c, rest, hs, hup⟩
      · rwa [← camelize_hyphenate hascii hcap, eq_comm]
      · -- a capital at the head would have stayed small
        have hhead := camelize_hyphenate_of_isUpper hs hascii hup
        rw [← h, hs] at hhead
        rw [(List.cons.inj hhead).1, isUpper_toLower (hascii c (by simp [hs]))] at hup
        exact absurd hup Bool.false_ne_true
    · right
      rcases head_cases s with hcap | ⟨c, rest, hs, hup⟩
      · rw [camelize_hyphenate hascii hcap] at h
        exact camelize_eq_of_capitalize hascii h
      · rwa [capitalize_camelize_hyphenate hs hascii hup, eq_comm] at h
  · intro h
    rcases h with h | h
    · exact Or.inl h.symm
    · have hcamel := leadsTo_camelize hascii
      rwa [h] at hcamel

/-! ## What a spelling of a plain word leads to -/

/-- A spelling of an ASCII word without hyphens leads only to ids that spell the same word. -/
theorem foldsTo_of_leadsTo {spelling id word : String} (hword : IsAscii word.toList)
    (hhyphen : '-' ∉ word.toList) (h : foldsTo spelling word) (hid : LeadsTo spelling id) :
    foldsTo id word := by
  rw [foldsTo_iff] at h
  have hmem : '-' ∉ spelling.toList := hyphen_not_mem_of_map_foldChar h hhyphen
  rw [LeadsTo, camelize_of_hyphen_not_mem hmem] at hid
  rcases hid with rfl | rfl | rfl
  · rwa [foldsTo_iff]
  · rwa [foldsTo_iff]
  · rw [foldsTo_iff]
    cases hs : spelling.toList with
    | nil => rw [capitalize, hs, h]
    | cons c rest =>
      rw [hs] at h
      rw [← h] at hword
      rw [toList_capitalize hs, List.map_append, map_foldChar_upperChar hword.head]
      exact h

end ComponentTags.Name
