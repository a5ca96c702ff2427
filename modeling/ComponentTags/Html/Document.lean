import ComponentTags.Html.Token

/-!
# A document under construction

While a document is read, nodes are still moved: out of a table, under a formatting element that was
closed too late. So nodes are numbered, and each knows its parent and its children. Node 0 is the root.

Text is never put beside text: it joins the text that already stands there.
-/

namespace ComponentTags.Html

/-- The vocabulary that an element belongs to. -/
inductive Space where
  | html
  | mathml
  | svg
deriving DecidableEq, Repr, Inhabited

/-- The full name of an element. -/
structure Name where
  space : Space := .html
  tag : String
deriving DecidableEq, Repr, Inhabited

/-- Whether this is the HTML element of a tag. -/
def Name.isHtml (n : Name) (tag : String) : Bool :=
  n.space == .html && n.tag == tag

/-- Whether this is the HTML element of one of some tags. -/
def Name.isOneOf (n : Name) (tags : List String) : Bool :=
  n.space == .html && tags.contains n.tag

/-- The number of a node. -/
abbrev NodeId := Nat

/-- What a node is. -/
inductive Kind where
  /-- The document, or what a template element holds. -/
  | fragment
  /-- An element; a template element has a fragment for its contents. -/
  | element (name : Name) (attributes : List Attribute) (contents : Option NodeId)
  | text (value : String)
  | comment (value : String)
  | doctype
deriving DecidableEq, Repr, Inhabited

/-- The kind with a character added, if it is text. -/
def Kind.push : Kind → Char → Kind
  | .text value, c => .text (value.push c)
  | kind, _ => kind

/-- A node and its place. -/
structure Cell where
  kind : Kind
  parent : Option NodeId := none
  children : Array NodeId := #[]
deriving DecidableEq, Repr, Inhabited

/-- A document under construction. -/
structure Document where
  cells : Array Cell := #[{ kind := .fragment }]
deriving Repr, Inhabited

/-- A place for a node or for text. -/
inductive Place where
  /-- After the last child of a node. -/
  | inside (parent : NodeId)
  /-- Just before a node that has a parent. -/
  | before (sibling : NodeId)
deriving DecidableEq, Repr

namespace Document

/-- The number of the root. -/
def root : NodeId := 0

/-- What a node is. -/
def kind? (d : Document) (node : NodeId) : Option Kind :=
  d.cells[node]?.map (·.kind)

/-- The children of a node. -/
def children (d : Document) (node : NodeId) : Array NodeId :=
  (d.cells[node]?.map (·.children)).getD #[]

/-- The parent of a node. -/
def parent? (d : Document) (node : NodeId) : Option NodeId :=
  d.cells[node]?.bind (·.parent)

/-- Where the content of a node goes: into its fragment if it is a template element, else into the
node itself. -/
def inner (d : Document) (node : NodeId) : NodeId :=
  match d.kind? node with
  | some (.element _ _ (some contents)) => contents
  | _ => node

/-- Changes a node. -/
def update (d : Document) (node : NodeId) (f : Cell → Cell) : Document :=
  { d with cells := d.cells.modify node f }

/-- Adds a node that has no place yet; its number is the size before. -/
def create (d : Document) (kind : Kind) : Document × NodeId :=
  ({ d with cells := d.cells.push { kind } }, d.cells.size)

/-- Adds an element that has no place yet. -/
def createElement (d : Document) (name : Name) (attributes : List Attribute) :
    Document × NodeId :=
  if name.isHtml "template" then
    let (d, contents) := d.create .fragment
    d.create (.element name attributes (some contents))
  else d.create (.element name attributes none)

/-- The parent that a place is under, and how many of its children come before the place. -/
def locate (d : Document) : Place → NodeId × Nat
  | .inside parent => (parent, (d.children parent).size)
  | .before sibling =>
    let parent := (d.parent? sibling).getD root
    (parent, ((d.children parent).findIdx? (· == sibling)).getD (d.children parent).size)

/-- Puts a node that has no place at a place. -/
def insert (d : Document) (place : Place) (node : NodeId) : Document :=
  let (parent, index) := d.locate place
  let d := d.update node fun cell => { cell with parent := some parent }
  d.update parent fun cell => { cell with children := cell.children.insertIdxIfInBounds index node }

/-- The text that text at a place joins, if there is one just before it. -/
def textBefore? (d : Document) (place : Place) : Option NodeId :=
  let (parent, index) := d.locate place
  if index == 0 then none
  else do
    let node ← (d.children parent)[index - 1]?
    match ← d.kind? node with
    | .text _ => some node
    | _ => none

/-- Puts a character at a place. -/
def insertChar (d : Document) (place : Place) (c : Char) : Document :=
  match d.textBefore? place with
  | some node => d.update node fun cell => { cell with kind := cell.kind.push c }
  | none =>
    let (d, node) := d.create (.text (String.singleton c))
    d.insert place node

/-- Takes a node from its place. -/
def detach (d : Document) (node : NodeId) : Document :=
  match d.parent? node with
  | none => d
  | some parent =>
    let d := d.update parent fun cell => { cell with children := cell.children.erase node }
    d.update node fun cell => { cell with parent := none }

/-- Moves the children of a node behind those of another. -/
def moveChildren (d : Document) (source target : NodeId) : Document :=
  let moved := d.children source
  let d := moved.foldl (fun d node => d.update node fun cell => { cell with parent := some target }) d
  let d := d.update source fun cell => { cell with children := #[] }
  d.update target fun cell => { cell with children := cell.children ++ moved }

/-- Adds attributes to an element, except for names that it has. -/
def addAttributes (d : Document) (node : NodeId) (attributes : List Attribute) : Document :=
  d.update node fun cell =>
    match cell.kind with
    | .element name old contents =>
      let new := attributes.filter fun a => !old.any (·.name == a.name)
      { cell with kind := .element name (old ++ new) contents }
    | _ => cell

end Document

end ComponentTags.Html
