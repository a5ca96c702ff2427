/-!
# Texts and bytes

File names and paths are bytes, which are a text in UTF-8 mostly but not always. What is to be a text
is refused if it is none (`text?`); what is only to be shown has the bytes replaced that are no
character (`lossy`).
-/

namespace ComponentTags.Text

/-- The bytes of a text in UTF-8. -/
def bytes (s : String) : List UInt8 :=
  s.toUTF8.data.toList

/-- The text that bytes are in UTF-8, if they are one. -/
def text? (bs : List UInt8) : Option String :=
  String.fromUTF8? bs.toByteArray

/-! ## Bytes shown as a text -/

/-- What stands for bytes that are no character. -/
def replacement : Char := '\uFFFD'

/-- A character of which the first bytes were read: its code as far as these tell, how many bytes are
missing, and the bounds of the next one. -/
structure Unfinished where
  code : Nat
  missing : Nat
  low : UInt8 := 0x80
  high : UInt8 := 0xBF
deriving DecidableEq, Repr

/-- The character that starts with a byte, if one can. The bounds of its second byte rule out codes
that have a shorter form, surrogates, and what lies behind the last code. -/
def start? (b : UInt8) : Option Unfinished :=
  if b < 0x80 then some { code := b.toNat, missing := 0 }
  else if b < 0xC2 then none
  else if b < 0xE0 then some { code := b.toNat - 0xC0, missing := 1 }
  else if b < 0xF0 then
    some {
      code := b.toNat - 0xE0, missing := 2
      low := if b == 0xE0 then 0xA0 else 0x80
      high := if b == 0xED then 0x9F else 0xBF }
  else if b < 0xF5 then
    some {
      code := b.toNat - 0xF0, missing := 3
      low := if b == 0xF0 then 0x90 else 0x80
      high := if b == 0xF4 then 0x8F else 0xBF }
  else none

/-- The character after one more byte, if the byte is part of it. -/
def Unfinished.next? (u : Unfinished) (b : UInt8) : Option Unfinished :=
  if u.low ≤ b ∧ b ≤ u.high then
    some { code := u.code * 64 + (b.toNat - 0x80), missing := u.missing - 1 }
  else none

/-- The character if no byte is missing, and else what remains unfinished. -/
def Unfinished.settle (u : Unfinished) : List Char × Option Unfinished :=
  if u.missing = 0 then ([Char.ofNat u.code], none) else ([], some u)

/-- What a byte between two characters gives: a character, the start of one, or a replacement. -/
def readFirst (b : UInt8) : List Char × Option Unfinished :=
  match start? b with
  | some u => u.settle
  | none => ([replacement], none)

/-- What a byte gives after some were read. Where it does not continue the character, the bytes of
that one are replaced together and the byte is read afresh. -/
def readByte : Option Unfinished → UInt8 → List Char × Option Unfinished
  | none, b => readFirst b
  | some u, b =>
    match u.next? b with
    | some next => next.settle
    | none => (replacement :: (readFirst b).1, (readFirst b).2)

/-- The characters of the bytes that are left. -/
def lossyFrom : Option Unfinished → List UInt8 → List Char
  | none, [] => []
  | some _, [] => [replacement]
  | unfinished, b :: bs =>
    (readByte unfinished b).1 ++ lossyFrom (readByte unfinished b).2 bs

/-- Bytes as a text, each longest start of a character that is not finished replaced, and each byte
that starts none. -/
def lossy (bs : List UInt8) : String :=
  String.ofList (lossyFrom none bs)

end ComponentTags.Text
