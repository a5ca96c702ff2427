import ComponentTags.Json.Cause

/-!
# Reading a text

A reader moves a cursor over a text and may fail. The cursor survives a failure, since closing
brackets are still looked for after one: a fault that does not know its place takes that of the
cursor once the brackets around it have been dealt with.

Readers also carry how much deeper values may still nest.
-/

namespace ComponentTags.Json

/-- What is left of a text, and the place reached in it. -/
structure Cursor where
  rest : List Char
  line : Nat := 1
  column : Nat := 0
deriving DecidableEq, Repr

namespace Cursor

/-- The start of a text. -/
def start (text : String) : Cursor :=
  { rest := text.toList }

/-- The place reached. -/
def position (c : Cursor) : Position :=
  ⟨c.line, c.column⟩

/-- The cursor past the next character. -/
def step (c : Cursor) : Cursor :=
  match c.rest with
  | [] => c
  | '\n' :: rest => { rest, line := c.line + 1, column := 0 }
  | ch :: rest => { c with rest, column := c.column + ch.utf8Size }

/-- The place one byte further on. -/
def positionAhead (c : Cursor) : Position :=
  match c.rest with
  | [] => c.position
  | '\n' :: _ => ⟨c.line + 1, 0⟩
  | _ :: _ => ⟨c.line, c.column + 1⟩

/-- The place so many bytes further on, which may be within a character; none if the text ends
before. -/
def positionAfter? (line column : Nat) : List Char → Nat → Option Position
  | _, 0 => some ⟨line, column⟩
  | [], _ + 1 => none
  | c :: rest, n + 1 =>
    if c == '\n' then positionAfter? (line + 1) 0 rest n
    else if c.utf8Size ≤ n + 1 then
      positionAfter? line (column + c.utf8Size) rest (n + 1 - c.utf8Size)
    else some ⟨line, column + n + 1⟩

/-- The place at the end of the text. -/
def positionAtEnd (c : Cursor) : Position :=
  let (line, column) := c.rest.foldl
    (fun (line, column) ch =>
      if ch == '\n' then (line + 1, 0) else (line, column + ch.utf8Size)) (c.line, c.column)
  ⟨line, column⟩

end Cursor

/-- A reader: it is given how many levels it may still enter, less one. -/
abbrev Scan := ReaderT Nat (ExceptT Fault (StateM Cursor))

namespace Scan

/-- Fails without a place. -/
def reject {α : Type} (cause : Cause) : Scan α :=
  throw { cause }

/-- Fails at the place reached. -/
def failHere {α : Type} (cause : Cause) : Scan α := do
  throw { cause, position := some (← get).position }

/-- Fails one byte past the place reached, where the offending character is. -/
def failAhead {α : Type} (cause : Cause) : Scan α := do
  throw { cause, position := some (← get).positionAhead }

/-- The next character. -/
def peek : Scan (Option Char) := do
  return (← get).rest.head?

/-- Goes past the next character. -/
def advance : Scan Unit :=
  modify Cursor.step

/-- Whether a character is blank between values. -/
def isGap (c : Char) : Bool :=
  c == ' ' || c == '\n' || c == '\t' || c == '\r'

/-- The cursor past the blanks before it. -/
def pastGap (line column : Nat) : List Char → Cursor
  | [] => { rest := [], line, column }
  | c :: rest =>
    if c == '\n' then pastGap (line + 1) 0 rest
    else if isGap c then pastGap line (column + 1) rest
    else { rest := c :: rest, line, column }

/-- Goes past blanks, and gives the character after them. -/
def peekPastGap : Scan (Option Char) := do
  modify fun c => pastGap c.line c.column c.rest
  peek

/-- The number of steps that certainly suffice for what is left of the text. -/
def bound : Scan Nat := do
  return 2 * (← get).rest.length + 2

/-- Runs a reader and gives its failure as a value. -/
def attempt {α : Type} (x : Scan α) : Scan (Except Fault α) :=
  fun depth => ExceptT.mk (do return .ok (← (x depth).run))

/-- Gives a fault of the reader the place reached, if it has none. -/
def located {α : Type} (x : Scan α) : Scan α := do
  match ← attempt x with
  | .ok a => return a
  | .error fault =>
    if fault.position.isSome then throw fault
    else throw { fault with position := some (← get).position }

/-- Reads what is between brackets: the opening one, the inside, and whatever `close` does to find
the closing one. A failure inside comes before one of `close`, which is run all the same. -/
def bracketed {α : Type} (close : Scan Unit) (inside : Scan α) : Scan α := do
  let depth ← read
  if depth ≤ 1 then failAhead .nestedTooDeep
  else
    advance
    let result ← attempt fun _ => inside (depth - 1)
    let closed ← attempt close
    match result, closed with
    | .ok a, .ok () => return a
    | .error fault, _ => throw fault
    | .ok _, .error fault => throw fault

/-- Finds the end of an array. -/
def closeList : Scan Unit := do
  match ← peekPastGap with
  | none => failAhead .listUnfinished
  | some ']' => advance
  | some ',' =>
    advance
    match ← peekPastGap with
    | some ']' => failAhead .trailingComma
    | _ => failAhead .trailingCharacters
  | some _ => failAhead .trailingCharacters

/-- Finds the end of an object. -/
def closeObject : Scan Unit := do
  match ← peekPastGap with
  | none => failAhead .objectUnfinished
  | some '\x7d' => advance
  | some ',' => failAhead .trailingComma
  | some _ => failAhead .trailingCharacters

/-- Whether another item of an array follows; goes past the comma before it. -/
def hasItem (first : Bool) : Scan Bool := do
  match ← peekPastGap with
  | none => failAhead .listUnfinished
  | some ']' => return false
  | some c =>
    if first then return true
    else if c == ',' then
      advance
      match ← peekPastGap with
      | some ']' => failAhead .trailingComma
      | some _ => return true
      | none => failAhead .valueUnfinished
    else failAhead .listCommaExpected

/-- Whether another entry of an object follows; goes past the comma before it. -/
def hasEntry (first : Bool) : Scan Bool := do
  match ← peekPastGap with
  | none => failAhead .objectUnfinished
  | some '\x7d' => return false
  | some c =>
    if first then
      if c == '"' then return true else failAhead .keyNotAString
    else if c == ',' then
      advance
      match ← peekPastGap with
      | some '"' => return true
      | some '\x7d' => failAhead .trailingComma
      | some _ => failAhead .keyNotAString
      | none => failAhead .valueUnfinished
    else failAhead .objectCommaExpected

/-- Goes past the colon after a key. -/
def colon : Scan Unit := do
  match ← peekPastGap with
  | some ':' => advance
  | some _ => failAhead .colonExpected
  | none => failAhead .objectUnfinished

/-- Goes past a word that is spelled out. -/
def word : List Char → Scan Unit
  | [] => return ()
  | w :: more => do
    match ← peek with
    | none => failHere .valueUnfinished
    | some c => if c == w then do advance; word more else failAhead .wordExpected

/-- Reads a whole text: a value, and nothing but blanks after it. -/
def whole {α : Type} (x : Scan α) (text : String) : Except Fault α :=
  let value : Scan α := do
    let a ← x
    match ← peekPastGap with
    | none => return a
    | some _ => failAhead .trailingCharacters
  ((value 128).run.run (Cursor.start text)).1

end Scan

end ComponentTags.Json
