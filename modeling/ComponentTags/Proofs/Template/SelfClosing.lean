import ComponentTags.Proofs.Text.Casing
import ComponentTags.Template

/-!
# Finding tags

A name of a component has one of two forms: it starts with a capital, or it has a hyphen. Only tags with
such a name are found in a text (`isComponentName_of_tag?`). A tag that is found is written out, and the text
behind it is gone through as if nothing had been before (`expandFrom_of_tag?`); all other characters stay
(`expandFrom_of_tag?_eq_none`).
-/

namespace ComponentTags.SelfClosing

open Text

/-! ## Characters of names -/

/-- A character of some kind is none that is not of that kind. -/
theorem ne_of_kind {kind : Char → Bool} {c mark : Char} (h : kind c) (hmark : kind mark = false) :
    c ≠ mark := by
  rintro rfl
  rw [h] at hmark
  cases hmark

theorem toNat_lt_of_isHyphenatedNameChar {c : Char} (h : isHyphenatedNameChar c) : c.toNat < 128 := by
  have hkinds : ((c.isUpper || c.isLower) || c.isDigit || c == '-') = true := h
  rw [Bool.or_eq_true, Bool.or_eq_true, Bool.or_eq_true, beq_iff_eq] at hkinds
  rcases hkinds with ((hupper | hlower) | hdigit) | rfl
  · exact toNat_lt_of_isUpper hupper
  · exact toNat_lt_of_isLower hlower
  · exact toNat_lt_of_isDigit hdigit
  · decide

theorem isHyphenatedNameChar_of_isLowerNameChar {c : Char} (h : isLowerNameChar c) :
    isHyphenatedNameChar c := by
  show ((c.isUpper || c.isLower) || c.isDigit || c == '-') = true
  rcases (Bool.or_eq_true _ _).mp h with hlower | hdigit
  · rw [hlower, Bool.or_true, Bool.true_or, Bool.true_or]
  · rw [hdigit, Bool.or_true, Bool.true_or]

theorem not_isUpper_of_isLowerNameChar {c : Char} (h : isLowerNameChar c) : c.isUpper = false :=
  ascii_induction (P := fun c => isLowerNameChar c → c.isUpper = false) (by decide)
    (toNat_lt_of_isHyphenatedNameChar (isHyphenatedNameChar_of_isLowerNameChar h)) h

theorem isLowerNameChar_of_isLower {c : Char} (h : c.isLower) : isLowerNameChar c := by
  rw [isLowerNameChar, h, Bool.true_or]

theorem toLower_ne_of_isHyphenatedNameChar {c : Char} (h : isHyphenatedNameChar c) : c.toLower ≠ '<' :=
  ascii_induction (P := fun c => isHyphenatedNameChar c → c.toLower ≠ '<') (by decide)
    (toNat_lt_of_isHyphenatedNameChar h) h

/-! ## Hyphenated names -/

/-- The names of the form `[a-z][a-z0-9]*-[A-Za-z0-9-]*`. -/
def IsHyphenated (name : List Char) : Prop :=
  ∃ first front back, name = first :: front ++ '-' :: back ∧ first.isLower ∧
    (∀ c ∈ front, isLowerNameChar c) ∧ ∀ c ∈ back, isHyphenatedNameChar c

variable {name after : List Char}

theorem IsHyphenated.isHyphenatedNameChar (h : IsHyphenated name) :
    ∀ c ∈ name, isHyphenatedNameChar c := by
  obtain ⟨first, front, back, rfl, hfirst, hfront, hback⟩ := h
  intro c hc
  rw [List.mem_append, List.mem_cons, List.mem_cons] at hc
  rcases hc with (rfl | hc) | (rfl | hc)
  · exact isHyphenatedNameChar_of_isLowerNameChar (isLowerNameChar_of_isLower hfirst)
  · exact isHyphenatedNameChar_of_isLowerNameChar (hfront c hc)
  · rfl
  · exact hback c hc

theorem takeWhile_append_stop {p : Char → Bool} {cs : List Char} (h : ∀ c ∈ cs, p c)
    (hafter : ∀ c ∈ after.head?, p c = false) : (cs ++ after).takeWhile p = cs := by
  rw [List.takeWhile_append_of_pos h]
  cases after with
  | nil => exact List.append_nil cs
  | cons c rest =>
    rw [List.takeWhile_cons_of_neg (by simp [hafter c rfl]), List.append_nil]

theorem dropWhile_append_stop {p : Char → Bool} {cs : List Char} (h : ∀ c ∈ cs, p c)
    (hafter : ∀ c ∈ after.head?, p c = false) : (cs ++ after).dropWhile p = after := by
  rw [List.dropWhile_append_of_pos h]
  cases after with
  | nil => rfl
  | cons c rest => exact List.dropWhile_cons_of_neg (by simp [hafter c rfl])

/-- A hyphenated name is read off a text that does not go on with more of it. -/
theorem IsHyphenated.name?_append (h : IsHyphenated name)
    (hafter : ∀ c ∈ after.head?, SelfClosing.isHyphenatedNameChar c = false) :
    name? (name ++ after) = some (name, after) := by
  obtain ⟨first, front, back, rfl, hfirst, hfront, hback⟩ := h
  have hhyphen : ∀ c ∈ ('-' :: (back ++ after)).head?, isLowerNameChar c = false := by
    rintro _ ⟨⟩
    decide
  rw [List.append_assoc, List.cons_append, List.cons_append]
  unfold name?
  dsimp only
  have hlower : first.isUpper = false :=
    not_isUpper_of_isLowerNameChar (isLowerNameChar_of_isLower hfirst)
  rw [hlower, if_neg Bool.false_ne_true, if_pos hfirst,
    takeWhile_append_stop hfront hhyphen, dropWhile_append_stop hfront hhyphen]
  show some (first :: front ++ '-' :: (back ++ after).takeWhile SelfClosing.isHyphenatedNameChar,
    (back ++ after).dropWhile SelfClosing.isHyphenatedNameChar) = _
  rw [takeWhile_append_stop hback hafter, dropWhile_append_stop hback hafter]

variable {cs : List Char} {c : Char} {t : Tag}

/-! ## Component names -/

/-- The names of the form `[A-Z][A-Za-z0-9.]*`. -/
def IsCapitalized (name : List Char) : Prop :=
  ∃ first back, name = first :: back ∧ first.isUpper ∧ ∀ c ∈ back, isCapitalNameChar c

/-- The names of components. -/
def IsComponentName (name : List Char) : Prop :=
  IsCapitalized name ∨ IsHyphenated name

theorem toNat_lt_of_isCapitalNameChar (h : isCapitalNameChar c) : c.toNat < 128 := by
  rcases (Bool.or_eq_true _ _).mp h with halnum | hdot
  · apply toNat_lt_of_isHyphenatedNameChar
    rw [isHyphenatedNameChar, halnum, Bool.true_or]
  · rw [eq_of_beq hdot]
    decide

/-- A blank or a slash ends a name of either form. -/
theorem not_isNameChar_of_ends (h : isBlank c ∨ c = '/') :
    isCapitalNameChar c = false ∧ isHyphenatedNameChar c = false := by
  have hascii : c.toNat < 128 → (isBlank c ∨ c = '/') →
      isCapitalNameChar c = false ∧ isHyphenatedNameChar c = false :=
    fun hc => ascii_induction (P := fun c => (isBlank c ∨ c = '/') →
      isCapitalNameChar c = false ∧ isHyphenatedNameChar c = false) (by decide) hc
  -- beyond ASCII no character is one of a name
  constructor
  · rw [Bool.eq_false_iff]
    intro hname
    rw [(hascii (toNat_lt_of_isCapitalNameChar hname) h).1] at hname
    exact Bool.false_ne_true hname
  · rw [Bool.eq_false_iff]
    intro hname
    rw [(hascii (toNat_lt_of_isHyphenatedNameChar hname) h).2] at hname
    exact Bool.false_ne_true hname

/-- A component name is read off a text that goes on with a blank or a slash. -/
theorem IsComponentName.name?_append (h : IsComponentName name)
    (hafter : ∀ c ∈ after.head?, isBlank c ∨ c = '/') : name? (name ++ after) = some (name, after) := by
  rcases h with ⟨first, back, rfl, hfirst, hback⟩ | h
  · have hends : ∀ c ∈ after.head?, isCapitalNameChar c = false :=
      fun c hc => (not_isNameChar_of_ends (hafter c hc)).1
    rw [List.cons_append, name?, if_pos hfirst, takeWhile_append_stop hback hends,
      dropWhile_append_stop hback hends]
  · exact h.name?_append fun c hc => (not_isNameChar_of_ends (hafter c hc)).2

/-- What is read off a text as a name is a component name, and the text starts with it. -/
theorem isComponentName_of_name? (h : name? cs = some (name, after)) :
    IsComponentName name ∧ cs = name ++ after := by
  cases cs with
  | nil => simp [name?] at h
  | cons first rest =>
    rw [name?] at h
    split at h
    · next hupper =>
      obtain ⟨rfl, rfl⟩ := Prod.mk.inj (Option.some.inj h)
      refine ⟨Or.inl ⟨first, _, rfl, hupper, List.all_eq_true.mp List.all_takeWhile⟩, ?_⟩
      rw [List.cons_append, List.takeWhile_append_dropWhile]
    split at h
    · next hlower =>
      dsimp only at h
      split at h
      · next back hback =>
        obtain ⟨rfl, rfl⟩ := Prod.mk.inj (Option.some.inj h)
        refine ⟨Or.inr ⟨first, _, _, rfl, hlower, List.all_eq_true.mp List.all_takeWhile,
          List.all_eq_true.mp List.all_takeWhile⟩, ?_⟩
        rw [List.append_assoc, List.cons_append, List.cons_append, List.takeWhile_append_dropWhile,
          ← hback, List.takeWhile_append_dropWhile]
      · cases h
    · cases h

/-! ## The text after a tag -/

theorem after_suffix_of_close? (h : close? cs = some after) : after <:+ cs := by
  unfold close? at h
  split at h
  · next rest hrest =>
    obtain rfl := Option.some.inj h
    have hslash : rest <:+ '/' :: '>' :: rest := ⟨['/', '>'], rfl⟩
    exact hslash.trans (hrest ▸ List.dropWhile_suffix _)
  · cases h

theorem after_suffix_of_attributes? {quote : Option Char} {text : List Char}
    (h : attributes? quote cs = some (text, after)) : after <:+ cs := by
  induction cs generalizing quote text with
  | nil => cases quote <;> simp [attributes?] at h
  | cons c rest ih =>
    cases quote with
    | some quote =>
      rw [attributes?, Option.map_eq_some_iff] at h
      obtain ⟨⟨text', after'⟩, hrest, heq⟩ := h
      obtain ⟨-, rfl⟩ := Prod.mk.inj heq
      exact (ih hrest).trans (List.suffix_cons c rest)
    | none =>
      rw [attributes?] at h
      split at h
      · next after' hclose =>
        obtain ⟨-, rfl⟩ := Prod.mk.inj (Option.some.inj h)
        exact after_suffix_of_close? hclose
      split at h
      · cases h
      · obtain ⟨⟨text', after'⟩, hrest, heq⟩ := Option.map_eq_some_iff.mp h
        obtain ⟨-, rfl⟩ := Prod.mk.inj heq
        exact (ih hrest).trans (List.suffix_cons c rest)

/-- Only an angle bracket starts a tag. -/
theorem tag?_eq_none_of_ne (h : c ≠ '<') : tag? (c :: cs) = none := by
  unfold tag?
  split
  · next heq => exact absurd (List.cons.inj heq).1 h
  · rfl

/-- What follows the name tells how far a tag goes. -/
theorem tag?_of_name? {rest : List Char} (hname : name? cs = some (name, c :: rest)) :
    tag? ('<' :: cs) =
      if isBlank c then (attributes? none rest).map fun p => ⟨name, c :: p.1, p.2⟩
      else (close? (c :: rest)).map fun after => ⟨name, [], after⟩ := by
  show (name? cs).bind _ = _
  rw [hname, Option.bind_some]
  dsimp only
  split
  · exact Option.map_eq_bind.symm
  · exact Option.map_eq_bind.symm

/-- What a tag that was found looks like: after a component name come a blank and more up to where the tag
closes itself, or it closes itself at once. -/
theorem cases_of_tag? (h : tag? cs = some t) :
    ∃ rest, cs = '<' :: t.name ++ rest ∧ IsComponentName t.name ∧
      ((∃ c more text, rest = c :: more ∧ isBlank c ∧ attributes? none more = some (text, t.after) ∧
          t.attributes = c :: text) ∨
        close? rest = some t.after ∧ t.attributes = []) := by
  obtain ⟨cs, rfl⟩ : ∃ more, cs = '<' :: more := by
    cases cs with
    | nil => cases h
    | cons c more =>
      refine ⟨more, congrArg (· :: more) ?_⟩
      by_contra hne
      rw [tag?_eq_none_of_ne hne] at h
      cases h
  have hbind : tag? ('<' :: cs) = (name? cs).bind _ := rfl
  obtain ⟨⟨name, rest⟩, hname, hrest⟩ := Option.bind_eq_some_iff.mp (hbind ▸ h)
  obtain ⟨hcomponent, rfl⟩ := isComponentName_of_name? hname
  cases rest with
  | nil => cases hrest
  | cons c more =>
    rw [tag?_of_name? hname] at h
    split at h
    · next hblank =>
      obtain ⟨⟨text, after⟩, hattributes, rfl⟩ := Option.map_eq_some_iff.mp h
      exact ⟨c :: more, rfl, hcomponent, Or.inl ⟨c, more, text, rfl, hblank, hattributes, rfl⟩⟩
    · obtain ⟨after, hclose, rfl⟩ := Option.map_eq_some_iff.mp h
      exact ⟨c :: more, rfl, hcomponent, Or.inr ⟨hclose, rfl⟩⟩

/-- A tag that was found has a component name, and what is after it is the rest of the text. -/
theorem isComponentName_of_tag? (h : tag? (c :: cs) = some t) :
    IsComponentName t.name ∧ t.after <:+ cs := by
  obtain ⟨rest, hsplit, hname, hcases⟩ := cases_of_tag? h
  obtain rfl : cs = t.name ++ rest := (List.cons.inj hsplit).2
  refine ⟨hname, List.IsSuffix.trans ?_ (List.suffix_append t.name rest)⟩
  obtain ⟨d, more, text, rfl, -, hattributes, -⟩ | ⟨hclose, -⟩ := hcases
  · exact (after_suffix_of_attributes? hattributes).trans (List.suffix_cons d more)
  · exact after_suffix_of_close? hclose

theorem expandFrom_append (front after : List Char) :
    expandFrom front.length (front ++ after) = expandFrom 0 after := by
  induction front with
  | nil => rfl
  | cons c front ih => exact ih

/-- A tag is written out, and what comes after it is gone through from the start. -/
theorem expandFrom_of_tag? (h : tag? (c :: cs) = some t) :
    expandFrom 0 (c :: cs) = t.written ++ expandFrom 0 t.after := by
  obtain ⟨front, rfl⟩ := (isComponentName_of_tag? h).2
  rw [expandFrom, h]
  dsimp only
  rw [List.length_append, Nat.add_sub_cancel, expandFrom_append]

/-- Where no tag starts, a character stays. -/
theorem expandFrom_of_tag?_eq_none (h : tag? (c :: cs) = none) :
    expandFrom 0 (c :: cs) = c :: expandFrom 0 cs := by
  rw [expandFrom, h]

/-- Text without angle brackets is passed over. -/
theorem expandFrom_append_of_not_mem {pre : List Char} (h : '<' ∉ pre) (cs : List Char) :
    expandFrom 0 (pre ++ cs) = pre ++ expandFrom 0 cs := by
  induction pre with
  | nil => rfl
  | cons c pre ih =>
    rw [List.mem_cons, not_or] at h
    rw [List.cons_append, expandFrom_of_tag?_eq_none (tag?_eq_none_of_ne (Ne.symm h.1)), ih h.2,
      List.cons_append]

end ComponentTags.SelfClosing
