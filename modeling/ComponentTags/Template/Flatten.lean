import ComponentTags.Element
import ComponentTags.Html.Tree
import ComponentTags.Text.Blank

/-!
# From document trees to template nodes

Text between tags that is blank is dropped. A document always has a root, a head and a body; where the
source did not write a root, these wrappers are dropped too, and what they hold takes their place.
-/

namespace ComponentTags

open Html (Tree)

/-- The place that is noted for everything that comes from a template. -/
def templateLocation : Location := { line := 1, column := 1 }

/-- Whether a tag is that of a part of the document that is put in when it is left out. -/
def isWrapperTag (tag : String) : Bool :=
  ["html", "head", "body"].contains tag

mutual

/-- The nodes of a tree: none for blank text or for what is no content, else one. What a template
element holds comes before its children. -/
def Node.ofTree : Tree → List Node
  | .element name attributes contents children =>
    let attributes := attributes.map fun a => ⟨a.name, a.value, templateLocation⟩
    let element := { tag := name.tag, attributes, location := templateLocation }
    [.element element (Node.ofTrees contents ++ Node.ofTrees children)]
  | .text value =>
    if Text.isAllBlank value then [] else [.text value templateLocation]
  | .comment value => [.comment value templateLocation]
  | .doctype | .instruction => []

/-- The nodes of some trees. -/
def Node.ofTrees : List Tree → List Node
  | [] => []
  | tree :: rest => Node.ofTree tree ++ Node.ofTrees rest

end

mutual

/-- The nodes of a tree of the document. Unless the source wrote the root itself, a wrapper has the
nodes of its children in its place. -/
def Node.collect (rootWritten : Bool) : Tree → List Node
  | .element name attributes contents children =>
    if isWrapperTag name.tag && !rootWritten then Node.collectAll rootWritten children
    else Node.ofTree (.element name attributes contents children)
  | .text value => Node.ofTree (.text value)
  | .comment value => Node.ofTree (.comment value)
  | .doctype | .instruction => []

/-- The nodes of some trees of the document. -/
def Node.collectAll (rootWritten : Bool) : List Tree → List Node
  | [] => []
  | tree :: rest => Node.collect rootWritten tree ++ Node.collectAll rootWritten rest

end

end ComponentTags
