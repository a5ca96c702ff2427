import ComponentTags.Proofs.Name.Spelling

/-!
# Kebab-case names

The names that templates write: segments of small letters and digits, joined by hyphens. Camelizing such a
name leaves a capital in place of each hyphen, and hyphenating it again puts the hyphens back
(`hyphenate_camelize_of_isKebabCase`). That holds for segments of one letter as well, of which camelizing
makes a run of capitals. So every spelling that a kebab-case name leads to has the name for its hyphenated
form (`hyphenate_of_leadsTo`), and no two of these names lead to the same id.
-/

namespace ComponentTags.Name

open Text

variable {cs rest segment : List Char} {previous : Char} {name : String}

/-! ## Segments -/

/-- The characters of kebab-case names other than the hyphen. -/
def IsSegmentChar (c : Char) : Prop :=
  c.isLower ∨ c.isDigit

instance (c : Char) : Decidable (IsSegmentChar c) :=
  inferInstanceAs (Decidable (_ ∨ _))

/-- The texts of the form `[a-z][a-z0-9]*`. -/
def IsSegment (cs : List Char) : Prop :=
  ∃ first rest, cs = first :: rest ∧ first.isLower ∧ ∀ c ∈ rest, IsSegmentChar c

/-- Segments that are joined by single hyphens. -/
inductive IsKebabCase : List Char → Prop where
  | segment {segment : List Char} : IsSegment segment → IsKebabCase segment
  | cons {segment rest : List Char} : IsSegment segment → IsKebabCase rest →
      IsKebabCase (segment ++ '-' :: rest)

theorem IsSegmentChar.toNat_lt {c : Char} (h : IsSegmentChar c) : c.toNat < 128 :=
  h.elim toNat_lt_of_isLower toNat_lt_of_isDigit

theorem IsSegmentChar.isUpper {c : Char} (h : IsSegmentChar c) : c.isUpper = false :=
  ascii_induction (P := fun c => IsSegmentChar c → c.isUpper = false) (by decide) h.toNat_lt h

theorem IsSegmentChar.ne_hyphen {c : Char} (h : IsSegmentChar c) : c ≠ '-' := by
  rintro rfl
  exact absurd h (by decide)

theorem IsSegment.isSegmentChar (h : IsSegment cs) : ∀ c ∈ cs, IsSegmentChar c := by
  obtain ⟨first, rest, rfl, hfirst, hrest⟩ := h
  exact List.forall_mem_cons.mpr ⟨Or.inl hfirst, hrest⟩

theorem IsSegment.isUpper (h : IsSegment cs) : ∀ c ∈ cs, c.isUpper = false :=
  fun c hc => (h.isSegmentChar c hc).isUpper

theorem IsSegment.hyphen_not_mem (h : IsSegment cs) : '-' ∉ cs :=
  fun hmem => (h.isSegmentChar '-' hmem).ne_hyphen rfl

theorem IsKebabCase.exists_cons (h : IsKebabCase cs) :
    ∃ first rest, cs = first :: rest ∧ first.isLower := by
  cases h with
  | segment hsegment =>
    obtain ⟨first, rest, rfl, hfirst, -⟩ := hsegment
    exact ⟨first, rest, rfl, hfirst⟩
  | cons hsegment _ =>
    obtain ⟨first, front, rfl, hfirst, -⟩ := hsegment
    exact ⟨first, _, rfl, hfirst⟩

theorem IsKebabCase.char_cases (h : IsKebabCase cs) : ∀ c ∈ cs, IsSegmentChar c ∨ c = '-' := by
  induction h with
  | segment hsegment => exact fun c hc => Or.inl (hsegment.isSegmentChar c hc)
  | cons hsegment _ ih =>
    intro c hc
    rcases List.mem_append.mp hc with hfront | hback
    · exact Or.inl (hsegment.isSegmentChar c hfront)
    · rcases List.mem_cons.mp hback with hhyphen | hrest
      · exact Or.inr hhyphen
      · exact ih c hrest

theorem IsKebabCase.isAscii (h : IsKebabCase cs) : IsAscii cs := by
  intro c hc
  rcases h.char_cases c hc with hchar | rfl
  · exact hchar.toNat_lt
  · decide

theorem IsKebabCase.isUpper (h : IsKebabCase cs) : ∀ c ∈ cs, c.isUpper = false := by
  intro c hc
  rcases h.char_cases c hc with hchar | rfl
  · exact hchar.isUpper
  · rfl

/-! ## Splitting before capitals -/

theorem map_toLower_of_forall (h : ∀ c ∈ cs, c.isUpper = false) : cs.map Char.toLower = cs := by
  have hself : ∀ c ∈ cs, c.toLower = c := fun c hc => toLower_of_not_isUpper (h c hc)
  rw [List.map_congr_left hself, List.map_id']

/-- What comes before a text counts only if it is a hyphen. -/
theorem splitAfter_congr {previous' : Char} (h : previous ≠ '-') (h' : previous' ≠ '-') :
    splitAfter previous cs = splitAfter previous' cs := by
  cases cs with
  | nil => rfl
  | cons c rest => rw [splitAfter, splitAfter, bne_iff_ne.mpr h, bne_iff_ne.mpr h']

theorem splitAfter_append (h : ∀ c ∈ segment, IsSegmentChar c) (hprevious : previous ≠ '-') :
    splitAfter previous (segment ++ cs) = segment ++ splitAfter previous cs := by
  induction segment generalizing previous with
  | nil => rfl
  | cons c segment ih =>
    obtain ⟨hc, hsegment⟩ := List.forall_mem_cons.mp h
    have hpass : ¬(previous != '-' && c.isUpper) = true := by simp [hc.isUpper]
    rw [List.cons_append, splitAfter_of_not_pair hpass, ih hsegment hc.ne_hyphen,
      splitAfter_congr hc.ne_hyphen hprevious, List.cons_append]

/-! ## There and back -/

theorem camelizeChars_append (h : '-' ∉ segment) :
    camelizeChars (segment ++ cs) = segment ++ camelizeChars cs := by
  induction segment with
  | nil => rfl
  | cons c segment ih =>
    rw [List.mem_cons, not_or] at h
    rw [List.cons_append, camelizeChars_cons (Ne.symm h.1), ih h.2, List.cons_append]

theorem isWord_of_isLower {c : Char} (h : c.isLower) : isWord c :=
  ascii_induction (P := fun c => c.isLower → isWord c) (by decide) (toNat_lt_of_isLower h) h

theorem isUpper_toUpper_of_isLower {c : Char} (h : c.isLower) : c.toUpper.isUpper :=
  ascii_induction (P := fun c => c.isLower → c.toUpper.isUpper) (by decide) (toNat_lt_of_isLower h) h

theorem toLower_toUpper_of_isLower {c : Char} (h : c.isLower) : c.toUpper.toLower = c :=
  ascii_induction (P := fun c => c.isLower → c.toUpper.toLower = c) (by decide) (toNat_lt_of_isLower h) h

/-- What comes behind a small letter is split alike after each character but a hyphen. -/
theorem map_toLower_splitAfter_tail {first : Char} {more : List Char} (hfirst : IsSegmentChar first)
    (hprevious : previous ≠ '-')
    (h : (splitAfter first (camelizeChars (first :: more))).map Char.toLower = first :: more) :
    (splitAfter previous (camelizeChars more)).map Char.toLower = more := by
  have hpass : ¬(first != '-' && first.isUpper) = true := by simp [hfirst.isUpper]
  rw [camelizeChars_cons hfirst.ne_hyphen, splitAfter_of_not_pair hpass] at h
  rw [splitAfter_congr hprevious hfirst.ne_hyphen]
  exact (List.cons.inj h).2

/-- Splitting puts a hyphen back for each one that camelizing a kebab-case text dropped. The induction is
along the segments: in camel case each but the first starts with a capital, which is split off. -/
theorem IsKebabCase.map_toLower_splitAfter (h : IsKebabCase cs) (hprevious : previous ≠ '-') :
    (splitAfter previous (camelizeChars cs)).map Char.toLower = cs := by
  induction h generalizing previous with
  | segment hsegment =>
    rw [camelizeChars_of_hyphen_not_mem hsegment.hyphen_not_mem, splitAfter_of_forall hsegment.isUpper,
      map_toLower_of_forall hsegment.isUpper]
  | @cons segment rest hsegment hrest ih =>
    obtain ⟨first, more, rfl, hfirst⟩ := hrest.exists_cons
    have hchar : IsSegmentChar first := Or.inl hfirst
    have hcapital : first.toUpper.isUpper := isUpper_toUpper_of_isLower hfirst
    have hcapital_ne : first.toUpper ≠ '-' := ne_hyphen_of_isWord (isWord_of_isUpper hcapital)
    have hcamel : camelizeChars (segment ++ '-' :: first :: more) =
        segment ++ first.toUpper :: camelizeChars more := by
      rw [camelizeChars_append hsegment.hyphen_not_mem, camelizeChars_of_isWord (isWord_of_isLower hfirst),
        upperChar_ascii hchar.toNat_lt, List.singleton_append]
    have hpair : (previous != '-' && first.toUpper.isUpper) = true := by simp [hprevious, hcapital]
    have hmore := map_toLower_splitAfter_tail hchar hcapital_ne (ih hchar.ne_hyphen)
    rw [hcamel, splitAfter_append hsegment.isSegmentChar hprevious, splitAfter_of_pair hpair,
      List.map_append, List.map_cons, List.map_cons, map_toLower_of_forall hsegment.isUpper, hmore,
      toLower_toUpper_of_isLower hfirst]
    rfl

/-- A kebab-case name is hyphenated already. -/
theorem hyphenate_of_isKebabCase (h : IsKebabCase name.toList) : hyphenate name = name := by
  rw [← String.toList_inj, toList_hyphenate h.isAscii, ← splitAfter_hyphen,
    splitAfter_of_forall h.isUpper, map_toLower_of_forall h.isUpper]

/-- Hyphenating gives a kebab-case name back from its camel-case form, whatever case the head of that form
is in. -/
theorem hyphenate_of_camelizeChars {spelling : String} {first head : Char} {more : List Char}
    (h : IsKebabCase (first :: more)) (hspelling : spelling.toList = head :: camelizeChars more)
    (hhead : head.toNat < 128) (hhyphen : head ≠ '-') (hlower : head.toLower = first) :
    (hyphenate spelling).toList = first :: more := by
  obtain ⟨first', more', hcons, hfirst⟩ := h.exists_cons
  obtain ⟨rfl, rfl⟩ := List.cons.inj hcons
  have hchar : IsSegmentChar first := Or.inl hfirst
  have hascii : IsAscii spelling.toList := by
    rw [hspelling]
    exact .cons hhead (isAscii_camelizeChars h.isAscii.tail)
  have hmore := map_toLower_splitAfter_tail hchar hhyphen (h.map_toLower_splitAfter hchar.ne_hyphen)
  rw [toList_hyphenate hascii, hspelling, splitCapitals, List.map_cons, hlower, hmore]

/-- Hyphenating takes camelizing back. -/
theorem hyphenate_camelize_of_isKebabCase (h : IsKebabCase name.toList) :
    hyphenate (camelize name) = name ∧ hyphenate (capitalize (camelize name)) = name := by
  obtain ⟨first, more, hname, hfirst⟩ := h.exists_cons
  have hchar : IsSegmentChar first := Or.inl hfirst
  have hcapital : first.toUpper.isUpper := isUpper_toUpper_of_isLower hfirst
  have hcamel : (camelize name).toList = first :: camelizeChars more := by
    rw [camelize, String.toList_ofList, hname, camelizeChars_cons hchar.ne_hyphen]
  have hcapitalized : (capitalize (camelize name)).toList = first.toUpper :: camelizeChars more := by
    rw [toList_capitalize hcamel, upperChar_ascii hchar.toNat_lt, List.singleton_append]
  rw [hname] at h
  rw [← String.toList_inj, ← String.toList_inj, hname]
  constructor
  · exact hyphenate_of_camelizeChars h hcamel hchar.toNat_lt hchar.ne_hyphen
      (toLower_of_not_isUpper hchar.isUpper)
  · exact hyphenate_of_camelizeChars h hcapitalized (toNat_lt_of_isUpper hcapital)
      (ne_hyphen_of_isWord (isWord_of_isUpper hcapital)) (toLower_toUpper_of_isLower hfirst)

/-- A kebab-case name is the hyphenated form of each id that it leads to. -/
theorem hyphenate_of_leadsTo {id : String} (h : IsKebabCase name.toList) (hid : LeadsTo name id) :
    hyphenate id = name := by
  rcases hid with rfl | rfl | rfl
  · exact hyphenate_of_isKebabCase h
  · exact (hyphenate_camelize_of_isKebabCase h).1
  · exact (hyphenate_camelize_of_isKebabCase h).2

end ComponentTags.Name
