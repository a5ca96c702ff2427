import ComponentTags.Html.Construction
import ComponentTags.Html.Tree

/-!
# Reading HTML

Any text is a document. Its characters pass through the lexer one at a time, and the tokens build the
document; in return the builder decides what characters mean next.

The text comes in blocks of bytes. Reading starts over with each block, with a character that two blocks
share, after such a character, and after a script. A byte order mark where reading starts is dropped,
before anything else is made of the text.
-/

namespace ComponentTags.Html

/-- How many bytes of a text are read at once. -/
def blockSize : Nat := 4096

/-- Whether two offsets in a text lie in different blocks. -/
def crossesBlocks (first last : Nat) : Bool := first / blockSize != last / blockSize

/-- A reader in the middle of a document. -/
structure Reader where
  lexer : State := .data
  builder : Builder := {}
  /-- The bytes read. -/
  offset : Nat := 0
  /-- Whether reading starts over, whatever character comes next. -/
  fresh : Bool := true
  /-- Whether the last character kept was a carriage return. -/
  afterReturn : Bool := false
deriving Repr, Inhabited

namespace Reader

/-- Whether reading starts over after a token, as it does when a script has been read. -/
def startsOver (r : Reader) : Token → Bool
  | .endTag t => r.builder.mode == .text && t.name == "script"
  | _ => false

/-- Takes a token. -/
def take (r : Reader) (token : Token) : Reader :=
  let fresh := r.fresh || r.startsOver token
  match r.builder.take token with
  | (builder, none) => { r with builder, fresh }
  | (builder, some mode) => { r with lexer := .text mode, builder, fresh }

/-- Whether reading starts at a character: it starts over there anyway, or two blocks share the
character. -/
def startsAt (r : Reader) (c : Char) : Bool :=
  r.fresh || crossesBlocks r.offset (r.offset + c.utf8Size - 1)

/-- Moves past a character. After the last byte of a block reading starts over. -/
def advance (r : Reader) (c : Char) : Reader :=
  let offset := r.offset + c.utf8Size
  { r with offset, fresh := crossesBlocks r.offset offset }

/-- Hands a character to the lexer. Lines end in a line feed: a carriage return becomes one, and a line feed
right after a carriage return is no character of its own. -/
def read (r : Reader) (c : Char) : Reader :=
  if r.afterReturn && c == '\n' then { r with afterReturn := false }
  else
    let (tokens, lexer) := r.lexer.step r.builder.allowsSections (if c == '\r' then '\n' else c)
    tokens.foldl take { r with lexer, afterReturn := c == '\r' }

/-- Reads a character. -/
def step (r : Reader) (c : Char) : Reader :=
  if r.startsAt c && c == '\uFEFF' then r.advance c else (r.advance c).read c

/-- Reads the end of the document. -/
def finish (r : Reader) : Document :=
  let r := (r.lexer.atEnd ++ [Token.finish]).foldl take r
  r.builder.document

end Reader

/-- Reads a document. -/
def parse (source : String) : List Tree :=
  (source.toList.foldl Reader.step {}).finish.trees

end ComponentTags.Html
