import ComponentTags.Html.Document

/-!
# The open elements

The elements whose end has not been seen, the innermost first. Most rules ask whether a tag is open
without a boundary in between, or close elements up to one of a kind; both are walks over this list.
-/

namespace ComponentTags.Html

/-- An open element. -/
structure Entry where
  node : NodeId
  name : Name
  /-- Whether it is an annotation in MathML that holds HTML. -/
  holdsHtml : Bool := false
deriving DecidableEq, Repr, Inhabited

/-! ## Kinds of elements -/

namespace Name

/-- Whether text inside of this MathML element is HTML. -/
def holdsText (n : Name) : Bool :=
  n.space == .mathml && ["mi", "mo", "mn", "ms", "mtext"].contains n.tag

/-- Whether what is inside of this SVG element is HTML. -/
def holdsHtml (n : Name) : Bool :=
  n.space == .svg && ["foreignObject", "desc", "title"].contains n.tag

/-- Whether the element bounds the search for an open tag. -/
def isBoundary (n : Name) : Bool :=
  n.isOneOf ["applet", "caption", "html", "table", "td", "th", "marquee", "object", "template"] ||
    n.holdsText || n.holdsHtml

/-- Whether the element bounds the search for an open list item. -/
def isListBoundary (n : Name) : Bool :=
  n.isBoundary || n.isOneOf ["ol", "ul"]

/-- Whether the element bounds the search for an open paragraph. -/
def isButtonBoundary (n : Name) : Bool :=
  n.isBoundary || n.isHtml "button"

/-- Whether the element bounds the search for an open part of a table. -/
def isTableBoundary (n : Name) : Bool :=
  n.isOneOf ["html", "table", "template"]

/-- Whether the element bounds the search for an open selection list. -/
def isSelectBoundary (n : Name) : Bool :=
  !n.isOneOf ["optgroup", "option"]

/-- Whether the element may hold rows. -/
def isRowHolder (n : Name) : Bool :=
  n.isOneOf ["tbody", "tfoot", "thead", "template", "html"]

/-- Whether the element may hold cells. -/
def isCellHolder (n : Name) : Bool :=
  n.isOneOf ["tr", "template", "html"]

/-- Whether the element is a cell of a table. -/
def isCell (n : Name) : Bool :=
  n.isOneOf ["td", "th"]

/-- Whether text does not belong directly inside of the element, but before the table. -/
def isTablePart (n : Name) : Bool :=
  n.isOneOf ["table", "tbody", "tfoot", "thead", "tr"]

/-- Whether the element is a heading. -/
def isHeading (n : Name) : Bool :=
  n.isOneOf ["h1", "h2", "h3", "h4", "h5", "h6"]

/-- Whether the element ends where an element around it ends. -/
def endsImplied (n : Name) : Bool :=
  n.isOneOf ["dd", "dt", "li", "option", "optgroup", "p", "rb", "rp", "rt", "rtc"]

/-- Whether an end tag of another name does not reach across the element. -/
def isSpecial (n : Name) : Bool :=
  n.isOneOf [
    "address", "applet", "area", "article", "aside", "base", "basefont", "bgsound", "blockquote",
    "body", "br", "button", "caption", "center", "col", "colgroup", "dd", "details", "dir", "div",
    "dl", "dt", "embed", "fieldset", "figcaption", "figure", "footer", "form", "frame", "frameset",
    "h1", "h2", "h3", "h4", "h5", "h6", "head", "header", "hgroup", "hr", "html", "iframe", "img",
    "input", "isindex", "li", "link", "listing", "main", "marquee", "menu", "meta", "nav", "noembed",
    "noframes", "noscript", "object", "ol", "p", "param", "plaintext", "pre", "script", "section",
    "select", "source", "style", "summary", "table", "tbody", "td", "template", "textarea", "tfoot",
    "th", "thead", "title", "tr", "track", "ul", "wbr", "xmp"]

end Name

/-! ## Walks over the open elements -/

/-- The open elements, the innermost first. -/
abbrev OpenElements := List Entry

namespace OpenElements

/-- Whether some open element is a target and nothing inside of it is a boundary. The target may be a
boundary itself. -/
def inScope (boundary : Name → Bool) (target : Entry → Bool) : OpenElements → Bool
  | [] => false
  | e :: outer => target e || (!boundary e.name && inScope boundary target outer)

/-- Whether the HTML element of a tag is open with no boundary inside of it. -/
def hasInScope (es : OpenElements) (boundary : Name → Bool) (tag : String) : Bool :=
  inScope boundary (·.name.isHtml tag) es

/-- Whether the HTML element of a tag is open at all. -/
def isOpen (es : OpenElements) (tag : String) : Bool :=
  es.any (·.name.isHtml tag)

/-- Whether the innermost open element is such. -/
def currentIs (es : OpenElements) (p : Name → Bool) : Bool :=
  es.head?.any fun e => p e.name

/-- Whether the innermost open element is the HTML element of a tag. -/
def currentIsHtml (es : OpenElements) (tag : String) : Bool :=
  es.currentIs (·.isHtml tag)

/-- Closes elements as long as the innermost is such. -/
def closeWhile (es : OpenElements) (p : Name → Bool) : OpenElements :=
  es.dropWhile fun e => p e.name

/-- Closes elements until the innermost is such. -/
def closeDownTo (es : OpenElements) (p : Name → Bool) : OpenElements :=
  es.closeWhile fun n => !p n

/-- Closes elements until one that is such has been closed. -/
def closeThrough (es : OpenElements) (p : Name → Bool) : OpenElements :=
  (es.closeDownTo p).tail

/-- Closes elements until the HTML element of a tag has been closed. -/
def closeTag (es : OpenElements) (tag : String) : OpenElements :=
  es.closeThrough (·.isHtml tag)

/-- Closes the elements whose end is implied. -/
def closeImplied (es : OpenElements) : OpenElements :=
  es.closeWhile (·.endsImplied)

/-- Closes the elements whose end is implied, but none of a tag. -/
def closeImpliedExcept (es : OpenElements) (tag : String) : OpenElements :=
  es.closeWhile fun n => n.endsImplied && !n.isHtml tag

/-- Closes the paragraph that is open in the current button, if there is one. -/
def closeOpenParagraph (es : OpenElements) : OpenElements :=
  if es.hasInScope (·.isButtonBoundary) "p" then es.closeTag "p" else es

/-- Closes elements for an end tag that has no rule of its own: up to the element it names, unless a
special element is in between. -/
def closeOther (es : OpenElements) (tag : String) : OpenElements :=
  let reached := es.find? fun e => e.name.isHtml tag || e.name.isSpecial
  if reached.any (·.name.isHtml tag) then es.closeTag tag else es

/-- Removes a node from the open elements. -/
def remove (es : OpenElements) (node : NodeId) : OpenElements :=
  es.filter (·.node != node)

/-- Whether a node is open. -/
def has (es : OpenElements) (node : NodeId) : Bool :=
  es.any (·.node == node)

/-- The outermost open element, which holds the document. -/
def outermost (es : OpenElements) : NodeId :=
  (es.getLast?.map (·.node)).getD Document.root

/-- The body element, if it is open just inside of the outermost. -/
def body? (es : OpenElements) : Option NodeId :=
  match es.reverse with
  | _ :: e :: _ => if e.name.isHtml "body" then some e.node else none
  | _ => none

/-- The place for what does not belong inside of a table: before the table, or inside of what is open
around it where the table has no parent; a template around the table or inside of it takes it up. -/
def fosterPlace (d : Document) : OpenElements → Place
  | [] => .inside Document.root
  | [e] => .inside e.node
  | e :: outer :: rest =>
    if e.name.isHtml "template" then .inside (d.inner e.node)
    else if e.name.isHtml "table" then
      if (d.parent? e.node).isSome then .before e.node else .inside outer.node
    else fosterPlace d (outer :: rest)

end OpenElements

end ComponentTags.Html
