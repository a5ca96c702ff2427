import ComponentTags.Text.Utf8
import Mathlib.Data.List.Basic
import Mathlib.Data.String.Basic

/-!
# Bytes that are a text

Bytes have a text exactly if they are its UTF-8 (`text?_eq_some_iff`), and then they are also shown as this
text (`lossy_bytes`).
-/

namespace ComponentTags.Text

theorem toByteArray_bytes (s : String) : (bytes s).toByteArray = s.toUTF8 := by
  apply ByteArray.ext
  rw [List.data_toByteArray, bytes, Array.toArray_toList]

theorem bytes_eq (s : String) : bytes s = s.toList.flatMap String.utf8EncodeChar := by
  rw [bytes, String.toUTF8, ← String.utf8Encode_toList, List.utf8Encode, List.data_toByteArray,
    List.toList_toArray]

/-- Bytes have a text if they are the bytes of this text. -/
theorem text?_eq_some_iff {bs : List UInt8} {s : String} : text? bs = some s ↔ bs = bytes s := by
  unfold text? String.fromUTF8?
  constructor
  · intro h
    split at h
    · next hvalid =>
      obtain rfl := Option.some.inj h
      change bs = bs.toByteArray.data.toList
      rw [List.data_toByteArray, List.toList_toArray]
    · cases h
  · rintro rfl
    rw [toByteArray_bytes, String.toUTF8, dif_pos s.isValidUTF8]
    rfl

/-! ## Reading a character byte by byte -/

section

variable {b : UInt8} {bs : List UInt8} {u : Unfinished} {code missing n : Nat}

theorem start?_one : ∀ n < 0x80, start? (UInt8.ofNat n) = some { code := n, missing := 0 } := by
  decide

theorem start?_two : ∀ n < 0x20, 2 ≤ n →
    start? (UInt8.ofNat (n + 0xC0)) = some { code := n, missing := 1 } := by
  decide

theorem start?_three : ∀ n < 0x10, start? (UInt8.ofNat (n + 0xE0)) = some {
    code := n, missing := 2
    low := if n = 0 then 0xA0 else 0x80, high := if n = 0xD then 0x9F else 0xBF } := by
  decide

theorem start?_four : ∀ n < 5, start? (UInt8.ofNat (n + 0xF0)) = some {
    code := n, missing := 3
    low := if n = 0 then 0x90 else 0x80, high := if n = 4 then 0x8F else 0xBF } := by
  decide

theorem toNat_low_le : (0x80 : UInt8).toNat ≤ n + 0x80 :=
  Nat.le_add_left _ _

theorem le_toNat_high (hn : n < 64) : n + 0x80 ≤ (0xBF : UInt8).toNat :=
  Nat.add_le_add_right (Nat.le_of_lt_succ hn) _

/-- A byte within the bounds gives six more bits of the code. -/
theorem Unfinished.next?_ofNat (hlow : u.low.toNat ≤ n + 0x80) (hhigh : n + 0x80 ≤ u.high.toNat) :
    u.next? (UInt8.ofNat (n + 0x80)) =
      some { code := u.code * 64 + n, missing := u.missing - 1 } := by
  have hbyte : (UInt8.ofNat (n + 0x80)).toNat = n + 0x80 :=
    UInt8.toNat_ofNat_of_lt' (hhigh.trans_lt u.high.toNat_lt)
  have hbounds : u.low ≤ UInt8.ofNat (n + 0x80) ∧ UInt8.ofNat (n + 0x80) ≤ u.high := by
    rw [UInt8.le_iff_toNat_le, UInt8.le_iff_toNat_le, hbyte]
    exact ⟨hlow, hhigh⟩
  rw [next?, if_pos hbounds, hbyte, Nat.add_sub_cancel]

theorem lossyFrom_start (h : start? b = some u) (hmore : u.missing ≠ 0) :
    lossyFrom none (b :: bs) = lossyFrom (some u) bs := by
  simp only [lossyFrom, readByte, readFirst, h, Unfinished.settle, if_neg hmore, List.nil_append]

theorem lossyFrom_next {low high : UInt8} (hlow : low.toNat ≤ n + 0x80)
    (hhigh : n + 0x80 ≤ high.toNat) :
    lossyFrom (some { code, missing := missing + 2, low, high }) (UInt8.ofNat (n + 0x80) :: bs) =
      lossyFrom (some { code := code * 64 + n, missing := missing + 1 }) bs := by
  rw [lossyFrom, readByte, Unfinished.next?_ofNat hlow hhigh]
  rfl

/-- The second byte has narrower bounds after some first bytes. -/
theorem lossyFrom_second {p q : Prop} [Decidable p] [Decidable q] (low high : UInt8) (hn : n < 64)
    (hlow : p → low.toNat ≤ n + 0x80) (hhigh : q → n + 0x80 ≤ high.toNat) :
    lossyFrom (some {
        code, missing := missing + 2
        low := if p then low else 0x80, high := if q then high else 0xBF })
        (UInt8.ofNat (n + 0x80) :: bs) =
      lossyFrom (some { code := code * 64 + n, missing := missing + 1 }) bs := by
  apply lossyFrom_next
  · split
    · next hp => exact hlow hp
    · exact toNat_low_le
  · split
    · next hq => exact hhigh hq
    · exact le_toNat_high hn

theorem lossyFrom_third (hn : n < 64) :
    lossyFrom (some { code, missing := missing + 2 }) (UInt8.ofNat (n + 0x80) :: bs) =
      lossyFrom (some { code := code * 64 + n, missing := missing + 1 }) bs :=
  lossyFrom_next toNat_low_le (le_toNat_high hn)

theorem lossyFrom_last (hn : n < 64) :
    lossyFrom (some { code, missing := 1 }) (UInt8.ofNat (n + 0x80) :: bs) =
      Char.ofNat (code * 64 + n) :: lossyFrom none bs := by
  rw [lossyFrom, readByte, Unfinished.next?_ofNat toNat_low_le (le_toNat_high hn)]
  rfl

end

/-- The bytes of a character are read as this character, whatever follows. -/
theorem lossyFrom_utf8EncodeChar_append (c : Char) (bs : List UInt8) :
    lossyFrom none (String.utf8EncodeChar c ++ bs) = c :: lossyFrom none bs := by
  have hcode : Char.ofNat c.val.toNat = c := Char.ofNat_toNat c
  have hvalid : c.val.toNat < 0xD800 ∨ 0xDFFF < c.val.toNat ∧ c.val.toNat < 0x110000 := c.valid
  have hsix : ∀ m, m % 64 < 64 := fun m => Nat.mod_lt m (by decide)
  unfold String.utf8EncodeChar
  dsimp only
  generalize c.val.toNat = v at hcode hvalid
  subst hcode
  -- one case for each number of bytes; the code is put together from six bits at a time
  split
  · next hone =>
    simp only [List.singleton_append, lossyFrom, readByte, readFirst, start?_one v (by omega),
      Unfinished.settle, if_true]
  split
  · next htwo =>
    have hcode : v / 64 * 64 + v % 64 = v := Nat.div_add_mod' v 64
    rw [Nat.mod_eq_of_lt (show v / 64 < 0x20 by omega)]
    simp only [List.cons_append, List.nil_append]
    rw [lossyFrom_start (start?_two _ (by omega) (by omega)) (Nat.succ_ne_zero _),
      lossyFrom_last (hsix _), hcode]
  split
  · next hthree =>
    have hcode : (v / 4096 * 64 + v / 64 % 64) * 64 + v % 64 = v := by omega
    -- what is below the bounds has a shorter form, and what is above them is a surrogate
    have hlow : v / 4096 = 0 → 0xA0 ≤ v / 64 % 64 + 0x80 := by omega
    have hhigh : v / 4096 = 0xD → v / 64 % 64 + 0x80 ≤ 0x9F := by omega
    rw [Nat.mod_eq_of_lt (show v / 4096 < 0x10 by omega)]
    simp only [List.cons_append, List.nil_append]
    rw [lossyFrom_start (start?_three _ (by omega)) (Nat.succ_ne_zero _),
      lossyFrom_second 0xA0 0x9F (hsix _) hlow hhigh, lossyFrom_last (hsix _), hcode]
  · next hfour =>
    have hcode : ((v / 262144 * 64 + v / 4096 % 64) * 64 + v / 64 % 64) * 64 + v % 64 = v := by
      omega
    -- here what is above the bounds is behind the last code
    have hlow : v / 262144 = 0 → 0x90 ≤ v / 4096 % 64 + 0x80 := by omega
    have hhigh : v / 262144 = 4 → v / 4096 % 64 + 0x80 ≤ 0x8F := by omega
    rw [Nat.mod_eq_of_lt (show v / 262144 < 8 by omega)]
    simp only [List.cons_append, List.nil_append]
    rw [lossyFrom_start (start?_four _ (by omega)) (Nat.succ_ne_zero _),
      lossyFrom_second 0x90 0x8F (hsix _) hlow hhigh, lossyFrom_third (hsix _),
      lossyFrom_last (hsix _), hcode]

/-- What is a text is shown as this text. -/
theorem lossy_bytes (s : String) : lossy (bytes s) = s := by
  have hchars : ∀ cs : List Char, lossyFrom none (cs.flatMap String.utf8EncodeChar) = cs := by
    intro cs
    induction cs with
    | nil => rfl
    | cons c cs ih => rw [List.flatMap_cons, lossyFrom_utf8EncodeChar_append, ih]
  rw [lossy, bytes_eq, hchars, String.ofList_toList]

end ComponentTags.Text
