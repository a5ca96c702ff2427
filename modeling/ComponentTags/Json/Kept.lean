import ComponentTags.Json.Source

/-!
# Reading from a kept value

The source whose value at hand is a `Value`. Causes have no place here: whoever kept the value gives
them one.
-/

namespace ComponentTags.Json

/-- A reader of the value it is given. -/
abbrev Kept := ReaderT Value (Except Cause)

namespace Kept

/-- Refuses the value for its kind. -/
def wrongType {α : Type} (wanted : String) : Kept α := do
  throw (.invalidType (← read).found wanted)

/-- A string. -/
def string : Kept String := do
  match ← read with
  | .string s => return s
  | _ => wrongType "a string"

/-- A natural of 32 bits. -/
def word32 : Kept UInt32 := do
  match ← read with
  | .number n => toWord32 n
  | _ => wrongType "u32"

/-- A list. -/
def list {α : Type} (item : Kept α) : Kept (List α) := do
  match ← read with
  | .array items => items.mapM fun v => (item v : Except Cause α)
  | _ => wrongType "a sequence"

/-- Reads fields from the items of an array, and gives what is left of both. -/
def inTurn {δ : Type} : List (Field Kept δ) → List Value → δ → Except Cause (δ × List Value)
  | field :: fields, v :: items, draft => do inTurn fields items (← field.read draft v)
  | _, items, draft => .ok (draft, items)

/-- Reads fields from the entries of an object. -/
def byKeys {δ : Type} (fields : List (Field Kept δ)) :
    List (String × Value) → δ → Except Cause δ
  | [], draft => .ok draft
  | (key, v) :: entries, draft =>
    match fields.find? (·.key == key) with
    | some field => do
      if field.filled draft then throw (.duplicateField key)
      byKeys fields entries (← field.read draft v)
    | none => byKeys fields entries draft

/-- What is wanted of an array that is too long. -/
def wantedCount (count : Nat) : String :=
  toString count ++ if count = 1 then " element in sequence" else " elements in sequence"

/-- A record. -/
def record {δ α : Type} (layout : Layout Kept δ α) : Kept α := do
  match ← read with
  | .array items =>
    let (draft, left) ← inTurn layout.fields items layout.blank
    let result ← layout.finishInTurn draft
    if left.isEmpty then return result
    else throw (.invalidLength items.length (wantedCount (items.length - left.length)))
  | .object entries => layout.finishByKeys (← byKeys layout.fields entries layout.blank)
  | _ => wrongType layout.wanted

/-- The content of a kind. -/
def content {α : Type} (choice : Choice α) : Content α → Kept α
  | .none label value => do
    match ← read with
    | .null => return value
    | _ => wrongType (choice.wantedUnit label)
  | .string value => do return value (← string)

/-- The name of a kind: a string, or an object with that key alone and nothing under it. -/
def kind {α : Type} (choice : Choice α) : Kept (Content α) := do
  match ← read with
  | .string name => ofName choice.variants name
  | .object [(name, v)] =>
    let content ← ofName choice.variants name
    match v with
    | .null | .object [] => return content
    | v => throw (.invalidType v.found "unit")
  | .object _ => throw (.invalidValue .map "map with a single key")
  | v => throw (.invalidType v.found "string or map")

/-- The entries of an object from the next one under the kind's or the content's key. -/
def relevant {α : Type} (choice : Choice α) (entries : List (String × Value)) :
    List (String × Value) :=
  entries.dropWhile fun (key, _) => key != choice.kindKey && key != choice.contentKey

/-- Refuses a further entry under the kind's or the content's key. -/
def noMore {α : Type} (choice : Choice α) (entries : List (String × Value)) :
    Except Cause Unit :=
  match relevant choice entries with
  | [] => .ok ()
  | (key, _) :: _ => .error (.duplicateField key)

/-- A kind with its content. -/
def choice {α : Type} (c : Choice α) : Kept α := do
  match ← read with
  | .array [] => throw (.invalidLength 0 c.wanted)
  | .array [tag] =>
    let _ ← (kind c tag : Except Cause _)
    throw (.invalidLength 1 c.wanted)
  | .array (tag :: v :: more) =>
    let result ← (content c (← (kind c tag : Except Cause _)) v : Except Cause _)
    if more.isEmpty then return result
    else throw (.invalidLength (more.length + 2) (wantedCount 2))
  | .object entries =>
    match relevant c entries with
    | [] => throw (.missingField c.kindKey)
    | (key, v) :: rest =>
      if key == c.kindKey then
        let found ← (kind c v : Except Cause _)
        match relevant c rest with
        | [] => c.withoutContent found
        | (key, v) :: rest =>
          if key == c.kindKey then throw (.duplicateField key)
          let result ← (content c found v : Except Cause _)
          noMore c rest
          return result
      else
        match relevant c rest with
        | [] => throw (.missingField c.kindKey)
        | (key, tag) :: rest =>
          if key == c.contentKey then throw (.duplicateField key)
          let result ← (content c (← (kind c tag : Except Cause _)) v : Except Cause _)
          noMore c rest
          return result
  | _ => wrongType c.wanted

/-- One of several kinds, by its name or by its number in order. -/
def oneOf {β : Type} (variants : List (String × β)) : Kept β := do
  match ← read with
  | .string name => ofName variants name
  | .number (.natural n) =>
    match variants[n]? with
    | some (_, b) => return b
    | none =>
      throw (.invalidValue (.number (.natural n))
        ("variant index 0 <= i < " ++ toString variants.length))
  | _ => wrongType "variant identifier"

/-- Goes through the entries of an object for the one under the kind's key, keeping the others. -/
def gather {β : Type} (kindKey : String) (variants : List (String × β)) :
    List (String × Value) → Option β → List (String × Value) → Except Cause (β × Value)
  | [], some found, before => .ok (found, .object before.reverse)
  | [], none, _ => .error (.missingField kindKey)
  | (key, v) :: rest, found, before => do
    if key == kindKey then
      if found.isSome then throw (.duplicateField key)
      gather kindKey variants rest (some (← (oneOf variants v : Except Cause β))) before
    else gather kindKey variants rest found ((key, v) :: before)

/-- A value whose kind is one of its own fields: the kind, and the other fields as an object, or as an
array if it is one with the kind at its head. -/
def kindWithFields {β : Type} (name kindKey : String) (variants : List (String × β)) :
    Kept (β × Value) := do
  match ← read with
  | .array [] => throw (.missingField kindKey)
  | .array (tag :: rest) => return (← (oneOf variants tag : Except Cause β), .array rest)
  | .object entries => gather kindKey variants entries none []
  | _ => wrongType ("internally tagged enum " ++ name)

instance : Source Kept where
  string := string
  word32 := word32
  list := list
  record := record
  choice := choice

end Kept

end ComponentTags.Json
