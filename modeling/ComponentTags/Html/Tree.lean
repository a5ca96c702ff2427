import ComponentTags.Html.Document

/-!
# Document trees

What is left of a document when it has been read: a forest, of which only elements hold anything.
-/

namespace ComponentTags.Html

/-- A finished node. What a template element holds stands apart from its children. -/
inductive Tree where
  | element (name : Name) (attributes : List Attribute) (contents children : List Tree)
  | text (value : String)
  | comment (value : String)
  | doctype
  /-- A processing instruction. No text is read as one, but a document may have some. -/
  | instruction
deriving Repr, Inhabited

namespace Document

/-- The trees of some nodes, down to a depth. -/
def treesTo (d : Document) : Nat → List NodeId → List Tree
  | 0, _ => []
  | depth + 1, nodes =>
    nodes.filterMap fun node => do
      let cell ← d.cells[node]?
      let below := d.treesTo depth
      match cell.kind with
      | .fragment => none
      | .element name attributes contents =>
        let held := (contents.map fun id => (d.children id).toList).getD []
        some (.element name attributes (below held) (below cell.children.toList))
      | .text value => some (.text value)
      | .comment value => some (.comment value)
      | .doctype => some .doctype

/-- The trees of a finished document. No branch is longer than there are nodes. -/
def trees (d : Document) : List Tree :=
  d.treesTo d.cells.size (d.children root).toList

end Document

end ComponentTags.Html
