import ComponentTags.Json.Cursor

/-!
# Strings and numbers of a text

Strings are read with their escapes; numbers are read by their grammar and then valued, as naturals
and negative integers while they fit into 64 bits and as `Binary64` beyond that.
-/

namespace ComponentTags.Json.Scan

/-! ## Strings -/

/-- The value of a hexadecimal digit. -/
def hexDigit? (c : Char) : Option Nat :=
  if '0' ≤ c && c ≤ '9' then some (c.toNat - '0'.toNat)
  else if 'a' ≤ c && c ≤ 'f' then some (c.toNat - 'a'.toNat + 10)
  else if 'A' ≤ c && c ≤ 'F' then some (c.toNat - 'A'.toNat + 10)
  else none

/-- The four hexadecimal digits of an escape, looked for in the next four bytes. -/
def hexEscape : Scan Nat := do
  let cursor ← get
  match cursor.rest with
  | a :: b :: c :: d :: _ =>
    match hexDigit? a, hexDigit? b, hexDigit? c, hexDigit? d with
    | some a, some b, some c, some d =>
      advance; advance; advance; advance
      return ((a * 16 + b) * 16 + c) * 16 + d
    | _, _, _, _ => unreadable cursor
  | _ => unreadable cursor
where
  /-- Fails past the four bytes, or at the end of the text if there are fewer. -/
  unreadable (cursor : Cursor) : Scan Nat :=
    match Cursor.positionAfter? cursor.line cursor.column cursor.rest 4 with
    | some position => throw { cause := .invalidEscape, position := some position }
    | none => throw { cause := .stringUnfinished, position := some cursor.positionAtEnd }

/-- Goes past one character that must be the given one, within the second half of a pair. -/
def pairMark (mark : Char) : Scan Unit := do
  match ← peek with
  | none => failHere .stringUnfinished
  | some c => if c == mark then advance else failAhead .hexEscapeUnfinished

/-- The character of a `\u` escape, or of two that make a pair. -/
def unicodeEscape : Scan Char := do
  let n ← hexEscape
  if 0xDC00 ≤ n && n ≤ 0xDFFF then failHere .loneSurrogate
  else if 0xD800 ≤ n && n ≤ 0xDBFF then
    pairMark '\\'
    pairMark 'u'
    let m ← hexEscape
    if m < 0xDC00 || 0xDFFF < m then failHere .loneSurrogate
    else return Char.ofNat (0x10000 + (n - 0xD800) * 0x400 + (m - 0xDC00))
  else return Char.ofNat n

/-- The character that a one-letter escape stands for. -/
def simpleEscape? (c : Char) : Option Char :=
  match c with
  | '"' => some '"'
  | '\\' => some '\\'
  | '/' => some '/'
  | 'b' => some '\x08'
  | 'f' => some '\x0C'
  | 'n' => some '\n'
  | 'r' => some '\r'
  | 't' => some '\t'
  | _ => none

/-- The character of an escape, after its backslash. -/
def escape : Scan Char := do
  match ← peek with
  | none => failHere .stringUnfinished
  | some 'u' =>
    advance
    unicodeEscape
  | some c =>
    match simpleEscape? c with
    | some e =>
      advance
      return e
    | none => failAhead .invalidEscape

/-- The rest of a string after its opening quote; `before` holds what was read of it, last first. -/
def stringBody : Nat → List Char → Scan String
  | 0, _ => failHere .stringUnfinished
  | fuel + 1, before => do
    match ← peek with
    | none => failHere .stringUnfinished
    | some '"' =>
      advance
      return String.ofList before.reverse
    | some '\\' =>
      advance
      stringBody fuel ((← escape) :: before)
    | some c =>
      if c.toNat < 32 then failAhead .controlCharacter
      else
        advance
        stringBody fuel (c :: before)

/-- A string, from its opening quote on. -/
def quotedString : Scan String := do
  advance
  stringBody (← bound) []

/-- Goes past the rest of a string that nobody reads: its escapes need not make sense. -/
def skipStringBody : Nat → Scan Unit
  | 0 => failHere .stringUnfinished
  | fuel + 1 => do
    match ← peek with
    | none => failHere .stringUnfinished
    | some '"' => advance
    | some '\\' =>
      advance
      match ← peek with
      | none => failHere .stringUnfinished
      | some 'u' =>
        advance
        let _ ← hexEscape
        skipStringBody fuel
      | some c =>
        if (simpleEscape? c).isSome then
          advance
          skipStringBody fuel
        else failAhead .invalidEscape
    | some c =>
      if c.toNat < 32 then failHere .controlCharacter
      else
        advance
        skipStringBody fuel

/-- Goes past a string, from its opening quote on. -/
def skipString : Scan Unit := do
  advance
  skipStringBody (← bound)

/-! ## Numbers -/

/-- The digits that follow, as numbers; goes past them. -/
def digits : Nat → List Nat → Scan (List Nat)
  | 0, before => return before.reverse
  | fuel + 1, before => do
    match ← peek with
    | some c =>
      if c.isDigit then
        advance
        digits fuel ((c.toNat - '0'.toNat) :: before)
      else return before.reverse
    | none => return before.reverse

/-- The digits before the point: one zero, or digits that do not start with one. -/
def wholeDigits : Scan (List Nat) := do
  match ← peek with
  | some '0' =>
    advance
    match ← peek with
    | some c => if c.isDigit then failAhead .invalidNumber else return [0]
    | none => return [0]
  | some c => if c.isDigit then digits (← bound) [] else failAhead .invalidNumber
  | none => failAhead .valueUnfinished

/-- The largest natural that is kept as one. -/
def maxNatural : Nat := UInt64.size - 1

/-- Appends digits to a natural while it stays within bounds, and gives the digits that are left. -/
def accumulate (n : Nat) : List Nat → Nat × List Nat
  | [] => (n, [])
  | d :: rest => if maxNatural < n * 10 + d then (n, d :: rest) else accumulate (n * 10 + d) rest

/-- The size of the exponent, read digit by digit while it stays below 2 ^ 31. The digit that makes
it too large settles the number: zero, or out of range. -/
def exponentDigits (zero up : Bool) : Nat → Nat → Scan (Option Nat)
  | 0, e => return some e
  | fuel + 1, e => do
    match ← peek with
    | some c =>
      if c.isDigit then
        advance
        let next := e * 10 + (c.toNat - '0'.toNat)
        if Nat.pow 2 31 ≤ next then
          if !zero && up then failHere .numberOutOfRange
          else
            let _ ← digits (← bound) []
            return none
        else exponentDigits zero up fuel next
      else return some e
    | none => return some e

/-- The exponent of a number, from its `e` on; none if it makes the number zero. -/
def exponentPart (zero : Bool) : Scan (Option Int) := do
  advance
  let up ← match ← peek with
    | some '+' => do advance; pure true
    | some '-' => do advance; pure false
    | _ => pure true
  match ← peek with
  | none => failHere .valueUnfinished
  | some c =>
    if c.isDigit then
      let e ← exponentDigits zero up (← bound) 0
      return e.map fun e => if up then (e : Int) else -(e : Int)
    else failAhead .invalidNumber

/-- The number `significand · 10 ^ exponent`, in range. -/
def decimal (negative : Bool) (significand : Nat) (exponent : Int) : Scan Number := do
  match Binary64.ofDecimal? significand exponent with
  | some x => return .float { x with negative }
  | none => failHere .numberOutOfRange

/-- The exponent part if there is one, and then the number. -/
def withExponent (negative : Bool) (significand : Nat) (exponent : Int) : Scan Number := do
  match ← peek with
  | some 'e' | some 'E' =>
    match ← exponentPart (significand == 0) with
    | some e => decimal negative significand (exponent + e)
    | none => return .float { negative }
  | _ => decimal negative significand exponent

/-- The number with a point after its first digits, from the point on; `exponent` counts the digits
before the point that were left out. -/
def fraction (negative : Bool) (significand : Nat) (exponent : Int) : Scan Number := do
  advance
  let ds ← digits (← bound) []
  if ds.isEmpty then
    match ← peek with
    | some _ => failAhead .invalidNumber
    | none => failAhead .valueUnfinished
  else
    let (significand, left) := accumulate significand ds
    withExponent negative significand (exponent - (ds.length - left.length : Nat))

/-- A number after its sign. -/
def unsigned (negative : Bool) : Scan Number := do
  let ds ← wholeDigits
  let (n, left) := accumulate 0 ds
  match ← peek with
  | some '.' => fraction negative n left.length
  | some 'e' | some 'E' => withExponent negative n left.length
  | _ =>
    if !left.isEmpty then decimal negative n left.length
    else if !negative then return .natural n
    else if n = 0 || Nat.pow 2 63 < n then decimal true n 0
    else return .negative n

/-- A number. -/
def number : Scan Number := do
  match ← peek with
  | some '-' =>
    advance
    unsigned true
  | _ => unsigned false

/-- Goes past a number that nobody reads: it may have any size. -/
def skipNumber : Scan Unit := do
  if (← peek) == some '-' then advance
  match ← peek with
  | some '0' =>
    advance
    match ← peek with
    | some c => if c.isDigit then failAhead .invalidNumber else pure ()
    | none => pure ()
  | some c => if c.isDigit then discard <| digits (← bound) [] else failAhead .invalidNumber
  | none => failAhead .invalidNumber
  if (← peek) == some '.' then
    advance
    if (← digits (← bound) []).isEmpty then failAhead .invalidNumber
  match ← peek with
  | some 'e' | some 'E' =>
    advance
    match ← peek with
    | some '+' | some '-' => advance
    | _ => pure ()
    if (← digits (← bound) []).isEmpty then failAhead .invalidNumber
  | _ => pure ()

end ComponentTags.Json.Scan
