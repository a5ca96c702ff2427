import ComponentTags.Proofs.Json.Reading

/-!
# Strings and naturals are read back

A string is written with escapes and a natural with decimal digits; both are read back from the text with
whatever follows (`reads_quotedString`, `reads_number`). A string ends at its closing quote, but a number
goes on as long as its characters do, so what follows it must not look like more of it (`Stops`).
-/

namespace ComponentTags.Json.Scan

variable {depth : Nat} {text : List Char}

/-! ## Strings -/

theorem reads_escape_of_simple {letter c : Char} (h : simpleEscape? letter = some c)
    (hu : letter ≠ 'u') : Reads escape depth (letter :: text) c text := by
  unfold escape
  refine reads_peek.bind ?_
  split
  · next hnone => cases hnone
  · next heq =>
    cases heq
    exact absurd rfl hu
  · next heq =>
    cases heq
    rw [h]
    exact reads_advance.bind (reads_pure c)

theorem hexDigit?_digitChar : ∀ n < 32, hexDigit? (Nat.digitChar (n / 16)) = some (n / 16) ∧
    hexDigit? (Nat.digitChar (n % 16)) = some (n % 16) := by
  decide

theorem reads_hexEscape {n : Nat} (hn : n < 32) :
    Reads hexEscape depth ('0' :: '0' :: hexPair n ++ text) n text := by
  obtain ⟨hhigh, hlow⟩ := hexDigit?_digitChar n hn
  have hzero : hexDigit? '0' = some 0 := by decide
  have hvalue : ((0 * 16 + 0) * 16 + n / 16) * 16 + n % 16 = n := by omega
  have hsteps : Reads
      (do
        advance; advance; advance; advance
        return ((0 * 16 + 0) * 16 + n / 16) * 16 + n % 16)
      depth ('0' :: '0' :: hexPair n ++ text) n text := by
    rw [hvalue]
    exact reads_advance.bind (reads_advance.bind (reads_advance.bind (reads_advance.bind
      (reads_pure n))))
  -- All four digits are looked at before the first of them is passed.
  rintro ⟨-, line, column⟩ rfl
  obtain ⟨d, hd, hrun⟩ := hsteps ⟨_, line, column⟩ rfl
  refine ⟨d, hd, ?_⟩
  rw [← hrun]
  unfold hexEscape
  rw [runAt_bind]
  show runAt
    (match hexDigit? '0', hexDigit? '0', hexDigit? (Nat.digitChar (n / 16)),
        hexDigit? (Nat.digitChar (n % 16)) with
      | _, _, _, _ => _) _ _ = _
  simp only [hzero, hhigh, hlow]

/-- Control characters that have no short escape are read back from their numbers. -/
theorem reads_escape_of_control {c : Char} (hc : c.toNat < 32) :
    Reads escape depth ('u' :: '0' :: '0' :: hexPair c.toNat ++ text) c text := by
  have hunicode : Reads unicodeEscape depth ('0' :: '0' :: hexPair c.toNat ++ text) c text := by
    unfold unicodeEscape
    refine (reads_hexEscape hc).bind ?_
    have hlow : ¬(0xDC00 ≤ c.toNat && c.toNat ≤ 0xDFFF) = true := by
      simp only [Bool.and_eq_true, decide_eq_true_eq, not_and]
      omega
    have hhigh : ¬(0xD800 ≤ c.toNat && c.toNat ≤ 0xDBFF) = true := by
      simp only [Bool.and_eq_true, decide_eq_true_eq, not_and]
      omega
    rw [if_neg hlow, if_neg hhigh, Char.ofNat_toNat]
    exact reads_pure c
  exact reads_peek.bind (reads_advance.bind hunicode)

/-- A character is written as it is, or as an escape that is read back. -/
theorem escapedChar_cases (c : Char) :
    escapedChar c = [c] ∧ c ≠ '"' ∧ c ≠ '\\' ∧ 32 ≤ c.toNat ∨
      ∃ escaped, escapedChar c = '\\' :: escaped ∧
        ∀ depth text, Reads escape depth (escaped ++ text) c text := by
  have hsimple : ∀ letter e, simpleEscape? letter = some e → letter ≠ 'u' →
      escapedChar e = ['\\', letter] → e = c →
      ∃ escaped, escapedChar c = '\\' :: escaped ∧
        ∀ depth text, Reads escape depth (escaped ++ text) c text := by
    rintro letter e hletter hu hescaped rfl
    exact ⟨[letter], hescaped, fun _ _ => reads_escape_of_simple hletter hu⟩
  by_cases hquote : c = '"'
  · exact Or.inr (hsimple '"' _ rfl (by decide) rfl hquote.symm)
  by_cases hslash : c = '\\'
  · exact Or.inr (hsimple '\\' _ rfl (by decide) rfl hslash.symm)
  by_cases hb : c = '\x08'
  · exact Or.inr (hsimple 'b' _ rfl (by decide) rfl hb.symm)
  by_cases hf : c = '\x0C'
  · exact Or.inr (hsimple 'f' _ rfl (by decide) rfl hf.symm)
  by_cases hn : c = '\n'
  · exact Or.inr (hsimple 'n' _ rfl (by decide) rfl hn.symm)
  by_cases hr : c = '\r'
  · exact Or.inr (hsimple 'r' _ rfl (by decide) rfl hr.symm)
  by_cases ht : c = '\t'
  · exact Or.inr (hsimple 't' _ rfl (by decide) rfl ht.symm)
  have hrest : escapedChar c =
      if c.toNat < 32 then ['\\', 'u', '0', '0'] ++ hexPair c.toNat else [c] := by
    simp only [escapedChar, beq_iff_eq, hquote, hslash, hb, hf, hn, hr, ht, if_false]
  rw [hrest]
  by_cases hcontrol : c.toNat < 32
  · rw [if_pos hcontrol]
    exact Or.inr ⟨_, rfl, fun _ _ => reads_escape_of_control hcontrol⟩
  · rw [if_neg hcontrol]
    exact Or.inl ⟨rfl, hquote, hslash, Nat.not_lt.mp hcontrol⟩

theorem escapedChar_length_pos (c : Char) : 0 < (escapedChar c).length := by
  rcases escapedChar_cases c with ⟨hplain, -⟩ | ⟨escaped, heq, -⟩
  · rw [hplain, List.length_singleton]
    exact Nat.zero_lt_one
  · rw [heq, List.length_cons]
    exact Nat.succ_pos _

/-- A written character is read, and then the rest of the string. -/
theorem reads_stringBody_cons {c : Char} {fuel : Nat} {before rest : List Char} {s : String}
    (h : Reads (stringBody fuel (c :: before)) depth rest s text) :
    Reads (stringBody (fuel + 1) before) depth (escapedChar c ++ rest) s text := by
  rcases escapedChar_cases c with ⟨hplain, hquote, hslash, hcontrol⟩ | ⟨escaped, heq, hescape⟩
  · rw [hplain]
    unfold stringBody
    refine reads_peek.bind ?_
    split
    · next h => cases h
    · next h =>
      cases h
      exact absurd rfl hquote
    · next h =>
      cases h
      exact absurd rfl hslash
    · next hpeek =>
      cases hpeek
      rw [if_neg (Nat.not_lt.mpr hcontrol)]
      exact reads_advance.bind h
  · rw [heq]
    exact reads_peek.bind (reads_advance.bind ((hescape _ _).bind h))

theorem reads_stringBody (cs : List Char) :
    ∀ (fuel : Nat) (before : List Char), (cs.flatMap escapedChar ++ '"' :: text).length ≤ fuel →
      Reads (stringBody fuel before) depth (cs.flatMap escapedChar ++ '"' :: text)
        (String.ofList (before.reverse ++ cs)) text := by
  -- What has been read is held last first, and moves to the other side with every character.
  induction cs with
  | nil =>
    intro fuel before hfuel
    obtain _ | fuel := fuel
    · simp at hfuel
    rw [List.append_nil]
    exact reads_peek.bind (reads_advance.bind (reads_pure _))
  | cons c cs ih =>
    intro fuel before hfuel
    obtain _ | fuel := fuel
    · simp at hfuel
    have hread : String.ofList (before.reverse ++ c :: cs) =
        String.ofList ((c :: before).reverse ++ cs) := by
      rw [List.reverse_cons, List.append_assoc, List.singleton_append]
    have hlength := escapedChar_length_pos c
    rw [List.flatMap_cons, List.append_assoc] at hfuel ⊢
    rw [List.length_append] at hfuel
    rw [hread]
    exact reads_stringBody_cons (ih fuel (c :: before) (by omega))

/-- A string that was written is read back. -/
theorem reads_quotedString (s : String) (after : List Char) :
    Reads quotedString depth (writeString s after) s after := by
  refine reads_advance.bind (reads_bound.bind ?_)
  let fuel := 2 * (s.toList.flatMap escapedChar ++ '"' :: after).length + 2
  have hbody : Reads (stringBody fuel []) depth (s.toList.flatMap escapedChar ++ '"' :: after)
      (String.ofList ([].reverse ++ s.toList)) after := reads_stringBody s.toList fuel [] (by omega)
  rw [List.reverse_nil, List.nil_append, String.ofList_toList] at hbody
  exact hbody

/-! ## Naturals -/

/-- What comes next is no more of a number. -/
def Stops (text : List Char) : Prop :=
  ∀ c ∈ text.head?, c.isDigit = false ∧ c ≠ '.' ∧ c ≠ 'e' ∧ c ≠ 'E'

/-- The value of a decimal digit. -/
def decimalValue (c : Char) : Nat :=
  c.toNat - '0'.toNat

theorem reads_digits {rest : List Char} (hrest : ∀ c ∈ rest.head?, c.isDigit = false)
    (cs : List Char) :
    ∀ (fuel : Nat) (before : List Nat), (∀ c ∈ cs, c.isDigit = true) → cs.length < fuel →
      Reads (digits fuel before) depth (cs ++ rest) (before.reverse ++ cs.map decimalValue) rest := by
  induction cs with
  | nil =>
    intro fuel before _ hfuel
    obtain _ | fuel := fuel
    · simp at hfuel
    rw [List.map_nil, List.append_nil]
    unfold digits
    refine reads_peek.bind ?_
    split
    · next c hc =>
      have hstop : c.isDigit = false := hrest c hc
      rw [if_neg (by rw [hstop]; exact Bool.false_ne_true)]
      exact reads_pure _
    · exact reads_pure _
  | cons c cs ih =>
    intro fuel before hdigits hfuel
    obtain _ | fuel := fuel
    · simp at hfuel
    have hc : c.isDigit = true := hdigits c List.mem_cons_self
    have htail : ∀ c ∈ cs, c.isDigit = true := fun d hd => hdigits d (List.mem_cons_of_mem c hd)
    have hnext := ih fuel (decimalValue c :: before) htail (by
      rw [List.length_cons] at hfuel
      omega)
    rw [List.reverse_cons, List.append_assoc, List.singleton_append] at hnext
    unfold digits
    refine reads_peek.bind ?_
    show Reads (if c.isDigit then do advance; digits fuel (decimalValue c :: before)
      else return before.reverse) _ _ _ _
    rw [if_pos hc]
    exact reads_advance.bind hnext

/-- Digits only make a number greater. -/
theorem le_ofDigitChars (cs : List Char) : ∀ n, n ≤ Nat.ofDigitChars 10 cs n := by
  induction cs with
  | nil => exact fun n => Nat.le_refl n
  | cons c cs ih =>
    intro n
    rw [Nat.ofDigitChars_cons]
    have hnext := ih (10 * n + (c.toNat - '0'.toNat))
    omega

theorem accumulate_decimalValues (cs : List Char) :
    ∀ n, Nat.ofDigitChars 10 cs n ≤ maxNatural →
      accumulate n (cs.map decimalValue) = (Nat.ofDigitChars 10 cs n, []) := by
  induction cs with
  | nil => exact fun n _ => rfl
  | cons c cs ih =>
    intro n hmax
    rw [Nat.ofDigitChars_cons, Nat.mul_comm] at hmax ⊢
    have hle := le_ofDigitChars cs (n * 10 + (c.toNat - '0'.toNat))
    have hfits : ¬maxNatural < n * 10 + decimalValue c := by
      unfold decimalValue
      omega
    rw [List.map_cons, accumulate, if_neg hfits]
    exact ih _ hmax

/-- A natural other than zero is not written with a zero at its head. -/
theorem head?_toDigits_ne {n : Nat} (hn : n ≠ 0) : (Nat.toDigits 10 n).head? ≠ some '0' := by
  induction n using Nat.strongRecOn with
  | ind n ih =>
    by_cases hlt : n < 10
    · have hdigit : ∀ k < 10, k ≠ 0 → Nat.digitChar k ≠ '0' := by decide
      rw [Nat.toDigits_of_lt_base hlt, List.head?_cons, ne_eq, Option.some.injEq]
      exact hdigit n hlt hn
    · have hlast := ih (n / 10) (by omega) (by omega)
      obtain ⟨c, cs, hcs⟩ := List.exists_cons_of_length_pos (Nat.length_toDigits_pos (b := 10))
      rw [hcs] at hlast
      rw [Nat.toDigits_of_base_le (by omega) (Nat.not_lt.mp hlt), hcs]
      exact hlast

theorem exists_toDigits_eq (n : Nat) : ∃ c cs, Nat.toDigits 10 n = c :: cs ∧ c.isDigit = true := by
  obtain ⟨c, cs, hcs⟩ := List.exists_cons_of_length_pos (Nat.length_toDigits_pos (b := 10) (n := n))
  have hc : c ∈ Nat.toDigits 10 n := hcs ▸ List.mem_cons_self
  exact ⟨c, cs, hcs, Nat.isDigit_of_mem_toDigits (by omega) (by omega) hc⟩

/-- Digits are neither blanks nor marks, nor do words start with them. -/
theorem ne_of_isDigit {c : Char} (hc : c.isDigit = true) :
    isGap c = false ∧ c ∉ ['-', '"', '[', ']', '\x7b', 'n', 't', 'f'] := by
  constructor
  · rw [Bool.eq_false_iff]
    intro hgap
    simp only [isGap, Bool.or_eq_true, beq_iff_eq] at hgap
    rcases hgap with ((rfl | rfl) | rfl) | rfl <;> exact absurd hc (by decide)
  · intro hmem
    simp only [List.mem_cons, List.not_mem_nil, or_false] at hmem
    rcases hmem with rfl | rfl | rfl | rfl | rfl | rfl | rfl | rfl <;> exact absurd hc (by decide)

theorem reads_wholeDigits {rest : List Char} (hrest : ∀ c ∈ rest.head?, c.isDigit = false)
    (n : Nat) :
    Reads wholeDigits depth (Nat.toDigits 10 n ++ rest) ((Nat.toDigits 10 n).map decimalValue)
      rest := by
  by_cases hn : n = 0
  · subst hn
    refine reads_peek.bind (reads_advance.bind (reads_peek.bind ?_))
    split
    · next c hc =>
      have hstop : c.isDigit = false := hrest c hc
      rw [if_neg (by rw [hstop]; exact Bool.false_ne_true)]
      exact reads_pure _
    · exact reads_pure _
  · have hdigits : ∀ c ∈ Nat.toDigits 10 n, c.isDigit = true :=
      fun c hc => Nat.isDigit_of_mem_toDigits (by omega) (by omega) hc
    have hhead := head?_toDigits_ne hn
    have hpos : 0 < (Nat.toDigits 10 n).length := Nat.length_toDigits_pos
    generalize Nat.toDigits 10 n = cs at hdigits hhead hpos ⊢
    obtain ⟨c, cs, rfl⟩ := List.exists_cons_of_length_pos hpos
    let fuel := 2 * (c :: cs ++ rest).length + 2
    have hfuel : (c :: cs).length < fuel := by
      have hlength : (c :: cs ++ rest).length = (c :: cs).length + rest.length := List.length_append
      omega
    have hall : Reads (digits fuel []) depth (c :: cs ++ rest)
        ([].reverse ++ (c :: cs).map decimalValue) rest :=
      reads_digits hrest (c :: cs) fuel [] hdigits hfuel
    unfold wholeDigits
    refine reads_peek.bind ?_
    split
    · next h =>
      cases h
      exact absurd rfl hhead
    · next h =>
      cases h
      rw [if_pos (hdigits c List.mem_cons_self)]
      exact reads_bound.bind hall
    · next h => cases h

/-- A natural that was written is read back, if it fits into 64 bits and nothing that follows looks like
more of it. -/
theorem reads_number {n : Nat} (hn : n < UInt64.size) {after : List Char} (hafter : Stops after) :
    Reads number depth (Nat.toDigits 10 n ++ after) (.natural n) after := by
  have hvalue : accumulate 0 ((Nat.toDigits 10 n).map decimalValue) = (n, []) := by
    have hdigits : Nat.ofDigitChars 10 (Nat.toDigits 10 n) 0 = n :=
      Nat.ofDigitChars_toDigits (by omega) (by omega)
    rw [accumulate_decimalValues, hdigits]
    rw [hdigits]
    exact Nat.le_pred_of_lt hn
  have hunsigned : Reads (unsigned false) depth (Nat.toDigits 10 n ++ after) (.natural n) after := by
    refine (reads_wholeDigits (fun c hc => (hafter c hc).1) n).bind ?_
    rw [hvalue]
    refine reads_peek.bind ?_
    split
    · next h => exact absurd rfl (hafter _ h).2.1
    · next h => exact absurd rfl (hafter _ h).2.2.1
    · next h => exact absurd rfl (hafter _ h).2.2.2
    · exact reads_pure _
  obtain ⟨c, cs, hcs, hc⟩ := exists_toDigits_eq n
  unfold number
  refine reads_peek.bind ?_
  split
  · next h =>
    -- a digit is no sign
    rw [hcs] at h
    cases h
    exact absurd hc (by decide)
  · exact hunsigned

end ComponentTags.Json.Scan
