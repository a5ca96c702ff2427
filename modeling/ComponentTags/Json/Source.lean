import ComponentTags.Json.Cause

/-!
# Sources of values

A value is read either from running text or from a `Value` that was kept. The readers of domain types
are written once for both, from a few readings that a source offers:

* records: objects with known keys, or arrays of the fields in order;
* choices: a kind and its content, under two keys or as an array of the two;
* strings, 32-bit naturals and lists.
-/

namespace ComponentTags.Json

/-- A field of a record: how it is read into a draft of the record. -/
structure Field (m : Type → Type) (δ : Type) where
  key : String
  filled : δ → Bool
  read : δ → m δ

/-- A field that is read by a reader and put into the draft. -/
def Field.of {m : Type → Type} [Monad m] {δ β : Type} (key : String) (get : δ → Option β)
    (put : δ → β → δ) (reader : m β) : Field m δ where
  key
  filled draft := (get draft).isSome
  read draft := put draft <$> reader

/-- A record: its name, its fields in order, and what a draft amounts to once all has been read. The
latter says of a field that is required but missing which one it is. -/
structure Layout (m : Type → Type) (δ α : Type) where
  name : String
  fields : List (Field m δ)
  blank : δ
  finish : (missing : Nat → String → Cause) → δ → Except Cause α

namespace Layout

variable {m : Type → Type} {δ α : Type}

/-- What a reader of the record wants. -/
def wanted (layout : Layout m δ α) : String :=
  "struct " ++ layout.name

/-- What a reader of the record wants of an array. -/
def wantedLength (layout : Layout m δ α) : String :=
  let count := layout.fields.length
  layout.wanted ++ " with " ++ toString count ++ (if count = 1 then " element" else " elements")

/-- The record of a draft that was read by keys. -/
def finishByKeys (layout : Layout m δ α) (draft : δ) : Except Cause α :=
  layout.finish (fun _ key => .missingField key) draft

/-- The record of a draft that was read in turn. -/
def finishInTurn (layout : Layout m δ α) (draft : δ) : Except Cause α :=
  layout.finish (fun index _ => .invalidLength index layout.wantedLength) draft

end Layout

/-- The value of a field that must be there. -/
def require {β : Type} (missing : Nat → String → Cause) (index : Nat) (key : String)
    (value : Option β) : Except Cause β :=
  match value with
  | some b => .ok b
  | none => .error (missing index key)

/-- What goes by a name, among the names that are known. -/
def ofName {β : Type} (variants : List (String × β)) (name : String) : Except Cause β :=
  match variants.lookup name with
  | some b => .ok b
  | none => .error (.unknownVariant name (variants.map (·.1)))

/-- What belongs to a kind. -/
inductive Content (α : Type) where
  /-- Nothing, or null; the label names the kind in messages. -/
  | none (label : String) (value : α)
  /-- A string. -/
  | string (value : String → α)

/-- A type with kinds of values, each with its content. -/
structure Choice (α : Type) where
  name : String
  kindKey : String
  contentKey : String
  variants : List (String × Content α)

namespace Choice

variable {α : Type}

/-- What a reader of the choice wants. -/
def wanted (choice : Choice α) : String :=
  "adjacently tagged enum " ++ choice.name

/-- What a reader wants as the content of a kind that has none. -/
def wantedUnit (choice : Choice α) (label : String) : String :=
  "unit variant " ++ choice.name ++ "::" ++ label

/-- The value of a kind whose content is missing. -/
def withoutContent (choice : Choice α) : Content α → Except Cause α
  | .none _ value => .ok value
  | .string _ => .error (.missingField choice.contentKey)

end Choice

/-- A source of values: a way to read the value at hand. -/
class Source (m : Type → Type) extends Monad m where
  string : m String
  word32 : m UInt32
  list {α : Type} : m α → m (List α)
  record {δ α : Type} : Layout m δ α → m α
  choice {α : Type} : Choice α → m α

/-- The number of 32 bits that a number is, if it is one. -/
def toWord32 : Number → Except Cause UInt32
  | .natural n =>
    if n < UInt32.size then .ok n.toUInt32 else .error (.invalidValue (.number (.natural n)) "u32")
  | .negative size => .error (.invalidValue (.number (.negative size)) "u32")
  | .float x => .error (.invalidType (.number (.float x)) "u32")

end ComponentTags.Json
