import ComponentTags.Json.Binary64

/-!
# JSON values

Values with the entries of their objects in the order they were written, repeated keys included, and
the text they are written as: no blanks, and in strings nothing escaped that need not be.
-/

namespace ComponentTags.Json

/-- A JSON number, by the way it is held: a natural of at most 64 bits, a negative integer (given by
its size), or anything else. -/
inductive Number where
  | natural (n : Nat)
  | negative (size : Nat)
  | float (x : Binary64)
deriving DecidableEq, Repr

/-- The text of a number. -/
def Number.text : Number → String
  | natural n => toString n
  | negative size => "-" ++ toString size
  | float x => x.text

/-- A JSON value. -/
inductive Value where
  | null
  | bool (b : Bool)
  | number (n : Number)
  | string (s : String)
  | array (items : List Value)
  | object (entries : List (String × Value))
deriving Repr, Inhabited

/-- The two hexadecimal digits of a small number. -/
def hexPair (n : Nat) : List Char :=
  [Nat.digitChar (n / 16), Nat.digitChar (n % 16)]

/-- What stands for one character in a string. -/
def escapedChar (c : Char) : List Char :=
  if c == '"' then ['\\', '"']
  else if c == '\\' then ['\\', '\\']
  else if c == '\x08' then ['\\', 'b']
  else if c == '\x0C' then ['\\', 'f']
  else if c == '\n' then ['\\', 'n']
  else if c == '\r' then ['\\', 'r']
  else if c == '\t' then ['\\', 't']
  else if c.toNat < 32 then ['\\', 'u', '0', '0'] ++ hexPair c.toNat
  else [c]

/-- A string as it is written, with what is written after it. -/
def writeString (s : String) (after : List Char) : List Char :=
  '"' :: (s.toList.flatMap escapedChar ++ '"' :: after)

mutual

/-- A value as it is written, with what is written after it. -/
def Value.writeBefore : Value → List Char → List Char
  | .null, after => "null".toList ++ after
  | .bool true, after => "true".toList ++ after
  | .bool false, after => "false".toList ++ after
  | .number n, after => n.text.toList ++ after
  | .string s, after => writeString s after
  | .array items, after => '[' :: writeItems items (']' :: after)
  | .object entries, after => '\x7b' :: writeEntries entries ('\x7d' :: after)

/-- The items of an array, with commas between them and what is written after them. -/
def writeItems : List Value → List Char → List Char
  | [], after => after
  | [v], after => v.writeBefore after
  | v :: w :: rest, after => v.writeBefore (',' :: writeItems (w :: rest) after)

/-- The entries of an object, with commas between them and what is written after them. -/
def writeEntries : List (String × Value) → List Char → List Char
  | [], after => after
  | [(key, v)], after => writeString key (':' :: v.writeBefore after)
  | (key, v) :: next :: rest, after =>
    writeString key (':' :: v.writeBefore (',' :: writeEntries (next :: rest) after))

end

/-- A value as it is written. -/
def Value.write (v : Value) : List Char :=
  v.writeBefore []

mutual

/-- How deep arrays and objects nest in a value. -/
def Value.depth : Value → Nat
  | .null | .bool _ | .number _ | .string _ => 0
  | .array items => depthOfItems items + 1
  | .object entries => depthOfEntries entries + 1

/-- The greatest depth among items. -/
def depthOfItems : List Value → Nat
  | [] => 0
  | v :: rest => max v.depth (depthOfItems rest)

/-- The greatest depth among the values of entries. -/
def depthOfEntries : List (String × Value) → Nat
  | [] => 0
  | (_, v) :: rest => max v.depth (depthOfEntries rest)

end

/-- The text of a value. -/
def Value.text (v : Value) : String :=
  String.ofList v.write

/-- An array of strings. -/
def Value.strings (items : List String) : Value :=
  .array (items.map .string)

/-- A natural as a value. -/
def Value.natural (n : Nat) : Value :=
  .number (.natural n)

end ComponentTags.Json
