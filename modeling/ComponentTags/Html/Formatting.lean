import ComponentTags.Html.Builder

/-!
# Active formatting

Formatting elements such as `b` and `a` need not be closed in order. Those that something else has
closed are opened again before the next content, and an end tag that reaches across a block splits the
element: one part stays before the block, a copy goes inside of it.
-/

namespace ComponentTags.Html

namespace Formatting

/-- Whether this entry is an element, and that of a node. -/
def isOf (node : NodeId) : Formatting → Bool
  | marker => false
  | element n _ => n == node

/-- Whether this entry is a marker. -/
def isMarker : Formatting → Bool
  | marker => true
  | element _ _ => false

/-- Whether two tags have the same name and the same attributes in any order. -/
def alike (s t : Tag) : Bool :=
  s.name == t.name && s.attributes.length == t.attributes.length &&
    s.attributes.all t.attributes.contains

/-- The tag that a node of the list was opened by. -/
def tagOf? (list : List Formatting) (node : NodeId) : Option Tag :=
  list.findSome? fun
    | marker => none
    | element n tag => if n == node then some tag else none

/-- The list without a node. -/
def remove (list : List Formatting) (node : NodeId) : List Formatting :=
  list.filter fun f => !f.isOf node

/-- The list with another entry in the place of a node. -/
def replace (list : List Formatting) (node : NodeId) (entry : Formatting) : List Formatting :=
  list.map fun f => if f.isOf node then entry else f

/-- The list with an entry that counts as later than a node by one. -/
def insertAfter (node : NodeId) (entry : Formatting) : List Formatting → List Formatting
  | [] => []
  | f :: rest => if f.isOf node then entry :: f :: rest else f :: insertAfter node entry rest

/-- The entries since the last marker. -/
def recent (list : List Formatting) : List Formatting :=
  list.takeWhile fun f => !f.isMarker

/-- The latest element since the last marker that a tag of this name opened. -/
def latest? (list : List Formatting) (name : String) : Option (NodeId × Tag) :=
  (recent list).findSome? fun
    | marker => none
    | element node tag => if tag.name == name then some (node, tag) else none

/-- The list with room for one more element of a tag: of three alike, the earliest is dropped. -/
def makeRoom (list : List Formatting) (t : Tag) : List Formatting :=
  let same := (recent list).filterMap fun
    | marker => none
    | element node tag => if alike t tag then some node else none
  match same.getLast? with
  | some earliest => if 3 ≤ same.length then remove list earliest else list
  | none => list

/-- Clears the list up to the last marker, which goes too. -/
def clear (list : List Formatting) : List Formatting :=
  (list.dropWhile fun f => !f.isMarker).tail

end Formatting

namespace Builder

/-- Sets a marker. -/
def mark (b : Builder) : Builder :=
  { b with formatting := .marker :: b.formatting }

/-- Clears the formatting up to the last marker. -/
def clearFormatting (b : Builder) : Builder :=
  { b with formatting := Formatting.clear b.formatting }

/-- Whether an entry is an element that is no longer open. -/
def isLost (b : Builder) : Formatting → Bool
  | .marker => false
  | .element node _ => !b.opened.has node

/-- Opens an element again for an entry, and puts a new entry for it on the list. -/
def reopenEntry (b : Builder) : Formatting → Builder
  | .marker => b.mark
  | .element _ tag =>
    let (b, node) := b.openElement { tag := tag.name } tag.attributes
    { b with formatting := .element node tag :: b.formatting }

/-- Opens again what has been closed since the last marker or the last entry that is open. -/
def reopenFormatting (b : Builder) : Builder :=
  let lost := b.formatting.takeWhile b.isLost
  let kept := { b with formatting := b.formatting.drop lost.length }
  lost.foldr (fun f b => b.reopenEntry f) kept

/-- Opens a formatting element. -/
def openFormatting (b : Builder) (t : Tag) : Builder :=
  let room := Formatting.makeRoom b.formatting t
  let (b, node) := b.openElement { tag := t.name } t.attributes
  { b with formatting := .element node t :: room }

/-! ## End tags of formatting elements -/

/-- How far an end tag has been carried through the elements between a formatting element and a block
inside of it. -/
structure Adoption where
  builder : Builder
  /-- How many elements have been passed. -/
  passed : Nat := 0
  /-- The open elements that took the place of those passed, the innermost first. -/
  kept : List Entry := []
  /-- The outermost of the nodes that move, at first the block. -/
  last : NodeId
  /-- The copy that the new formatting entry comes after, if there is one. -/
  bookmark : Option NodeId := none

/-- Passes an element on the way from a block to the formatting element around it. The first three get
a copy around what moves if they are formatting elements; all others are closed. -/
def Adoption.pass (a : Adoption) (e : Entry) : Adoption :=
  let b := a.builder
  let a := { a with passed := a.passed + 1 }
  if 3 < a.passed then
    { a with builder := { b with formatting := Formatting.remove b.formatting e.node } }
  else
    match Formatting.tagOf? b.formatting e.node with
    | none => a
    | some tag =>
      let (d, copy) := b.document.createElement { tag := tag.name } tag.attributes
      let d := (d.detach a.last).insert (.inside copy) a.last
      let formatting := Formatting.replace b.formatting e.node (.element copy tag)
      { a with
        builder := { b with document := d, formatting }
        kept := a.kept ++ [⟨copy, { tag := tag.name }, false⟩]
        last := copy
        bookmark := a.bookmark <|> some copy }

/-- Splits a formatting element around a block: `inner` is open inside of the block, `between` between
the two and `outer` around the formatting element, each with the innermost first. -/
def split (b : Builder) (node : NodeId) (tag : Tag) (inner : OpenElements) (block : Entry)
    (between outer : OpenElements) : Builder :=
  let a := between.foldl Adoption.pass { builder := b, last := block.node }
  let b := a.builder
  let place := (outer.head?.map b.placeIn).getD (.inside Document.root)
  let d := (b.document.detach a.last).insert place a.last
  let (d, copy) := d.createElement { tag := tag.name } tag.attributes
  let d := (d.moveChildren block.node copy).insert (.inside block.node) copy
  let entry := Formatting.element copy tag
  let formatting :=
    match a.bookmark with
    | none => Formatting.replace b.formatting node entry
    | some previous =>
      Formatting.remove (Formatting.insertAfter previous entry b.formatting) node
  { b with
    document := d
    formatting
    opened := inner ++ ⟨copy, { tag := tag.name }, false⟩ :: block :: a.kept ++ outer }

/-- Closes the formatting elements of a name, in so many rounds at most. -/
def closeFormattingIn (b : Builder) (name : String) : Nat → Builder
  | 0 => b
  | rounds + 1 =>
    match Formatting.latest? b.formatting name with
    | none => b.change (·.closeOther name)
    | some (node, tag) =>
      if !b.opened.has node then
        { b with formatting := Formatting.remove b.formatting node }
      else if !OpenElements.inScope (·.isBoundary) (·.node == node) b.opened then b
      else
        let inside := b.opened.takeWhile (·.node != node)
        let outer := b.opened.drop (inside.length + 1)
        let between := (inside.reverse.takeWhile fun e => !e.name.isSpecial).reverse
        let rest := inside.take (inside.length - between.length)
        match rest.getLast? with
        | none =>
          { b with opened := outer, formatting := Formatting.remove b.formatting node }
        | some block =>
          (b.split node tag rest.dropLast block between outer).closeFormattingIn name rounds

/-- Applies the end tag of a formatting element. -/
def closeFormatting (b : Builder) (name : String) : Builder :=
  let isListed := b.opened.head?.any fun e => b.formatting.any (·.isOf e.node)
  if b.opened.currentIsHtml name && !isListed then b.change List.tail
  else b.closeFormattingIn name 8

/-- Closes a link that is still open, for links do not nest. -/
def closeLink (b : Builder) : Builder :=
  match Formatting.latest? b.formatting "a" with
  | none => b
  | some (node, _) =>
    let b := b.closeFormatting "a"
    { b with
      formatting := Formatting.remove b.formatting node
      opened := b.opened.remove node }

end Builder

end ComponentTags.Html
