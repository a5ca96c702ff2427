import ComponentTags.Html.Lexer
import ComponentTags.Html.OpenElements

/-!
# The state of building a document

What is known between two tokens: the document so far, the elements that are open, the formatting
that is to be reopened, and the insertion mode, which says what the next token means. The rules of the
modes are written with the operations of this module.
-/

namespace ComponentTags.Html

/-- What part of a document is being read. -/
inductive Mode where
  | initial
  | beforeHtml
  | beforeHead
  | inHead
  | afterHead
  | inBody
  | text
  | inTable
  | inTableText
  | inCaption
  | inColumnGroup
  | inTableBody
  | inRow
  | inCell
  | inSelect
  | inSelectInTable
  | inTemplate
  | afterBody
  | inFrameset
  | afterFrameset
  | afterAfterBody
  | afterAfterFrameset
deriving DecidableEq, Repr, Inhabited

/-- An entry of the list of active formatting: an element with the tag that opened it, or a marker
that nothing before it is reopened across. -/
inductive Formatting where
  | marker
  | element (node : NodeId) (tag : Tag)
deriving DecidableEq, Repr, Inhabited

/-- The state of building a document. -/
structure Builder where
  document : Document := {}
  mode : Mode := .initial
  /-- The mode to go back to when a text has ended. -/
  textReturn : Mode := .inBody
  opened : OpenElements := []
  /-- The active formatting, the latest first. -/
  formatting : List Formatting := []
  /-- The modes of the open templates, the innermost first. -/
  templateModes : List Mode := []
  head : Option NodeId := none
  /-- The form that is open, wherever it stands. -/
  form : Option NodeId := none
  /-- Whether the document type asks for the old style, in which a table does not end a paragraph. -/
  oldStyle : Bool := false
  /-- Whether nothing has been read yet that a frameset could not replace. -/
  framesetOk : Bool := true
  /-- Whether content that does not belong inside of a table is moved before it. -/
  fostering : Bool := false
  /-- Whether the next character is dropped if it is a line feed. -/
  skipNewline : Bool := false
  /-- Characters inside of a table whose place is not decided yet. -/
  tableText : String := ""
deriving Repr, Inhabited

/-- What becomes of a token after a rule has been applied. -/
inductive Verdict where
  /-- It has been dealt with. -/
  | done
  /-- It is looked at again in the mode that is current now. -/
  | again
  /-- It has been dealt with, and characters have a new meaning from here on. -/
  | text (mode : TextMode)
deriving DecidableEq, Repr

/-- The state that a rule leads to, and what becomes of the token. -/
abbrev Outcome := Builder × Verdict

namespace Builder

/-- The token has been dealt with. -/
def done (b : Builder) : Outcome := (b, .done)

/-- The token is looked at again in a mode. -/
def againIn (b : Builder) (mode : Mode) : Outcome := ({ b with mode }, .again)

/-- Changes the open elements. -/
def change (b : Builder) (f : OpenElements → OpenElements) : Builder :=
  { b with opened := f b.opened }

/-- Notes that a frameset is no longer possible. -/
def noFrameset (b : Builder) : Builder :=
  { b with framesetOk := false }

/-- Whether a template is open. -/
def inTemplate (b : Builder) : Bool :=
  b.opened.isOpen "template"

/-! ## Inserting -/

/-- The place for what belongs into an open element. -/
def placeIn (b : Builder) (target : Entry) : Place :=
  if b.fostering && target.name.isTablePart then OpenElements.fosterPlace b.document b.opened
  else .inside (b.document.inner target.node)

/-- The place for what comes next. -/
def place (b : Builder) : Place :=
  match b.opened.head? with
  | some e => b.placeIn e
  | none => .inside Document.root

/-- Inserts a character. -/
def insertChar (b : Builder) (c : Char) : Builder :=
  { b with document := b.document.insertChar b.place c }

/-- Inserts a comment at a place. -/
def insertCommentAt (b : Builder) (place : Place) (text : String) : Builder :=
  let (d, node) := b.document.create (.comment text)
  { b with document := d.insert place node }

/-- Inserts a comment. -/
def insertComment (b : Builder) (text : String) : Builder :=
  b.insertCommentAt b.place text

/-- Inserts a document type. It stands directly in the document. -/
def insertDoctype (b : Builder) : Builder :=
  let (d, node) := b.document.create .doctype
  { b with document := d.insert (.inside Document.root) node }

/-- Inserts an element without opening it. -/
def insertElement (b : Builder) (name : Name) (attributes : List Attribute) : Builder × NodeId :=
  let (d, node) := b.document.createElement name attributes
  ({ b with document := d.insert b.place node }, node)

/-- Whether an annotation with these attributes holds HTML. -/
def holdsHtml (name : Name) (attributes : List Attribute) : Bool :=
  name.space == .mathml && name.tag == "annotation-xml" && attributes.any fun a =>
    a.name == "encoding" && ["text/html", "application/xhtml+xml"].contains a.value.toLower

/-- Inserts an element and opens it. -/
def openElement (b : Builder) (name : Name) (attributes : List Attribute) : Builder × NodeId :=
  let (b, node) := b.insertElement name attributes
  ({ b with opened := ⟨node, name, holdsHtml name attributes⟩ :: b.opened }, node)

/-- Inserts the HTML element of a tag without opening it. -/
def insertTag (b : Builder) (t : Tag) : Builder :=
  (b.insertElement { tag := t.name } t.attributes).1

/-- Inserts the HTML element of a tag and opens it. -/
def openTag (b : Builder) (t : Tag) : Builder :=
  (b.openElement { tag := t.name } t.attributes).1

/-- Inserts and opens an HTML element that no tag stands for. -/
def openImplied (b : Builder) (tag : String) : Builder :=
  b.openTag { name := tag }

/-- Inserts and opens the element that holds the document. -/
def openRoot (b : Builder) (attributes : List Attribute) : Builder :=
  b.openTag { name := "html", attributes }

/-- Adds attributes to the element that holds the document, unless a template is open. -/
def mergeRoot (b : Builder) (t : Tag) : Builder :=
  if b.inTemplate then b
  else { b with document := b.document.addAttributes b.opened.outermost t.attributes }

/-- Opens the element of a tag whose content is text. -/
def openText (b : Builder) (t : Tag) (mode : TextMode) : Outcome :=
  let b := b.openTag t
  ({ b with mode := .text, textReturn := b.mode }, .text mode)

/-! ## Modes -/

/-- The mode of a selection list that is open inside of some elements. -/
def selectMode : OpenElements → Mode
  | [] => .inSelect
  | e :: outer =>
    if e.name.isHtml "template" then .inSelect
    else if e.name.isHtml "table" then .inSelectInTable
    else selectMode outer

/-- The mode that some open elements call for. The outermost element does not count as a cell or as
the head. -/
def modeFor (b : Builder) : OpenElements → Mode
  | [] => .inBody
  | e :: outer =>
    if e.name.space != .html then b.modeFor outer
    else
      match e.name.tag with
      | "select" => selectMode outer
      | "td" | "th" => if outer.isEmpty then b.modeFor outer else .inCell
      | "tr" => .inRow
      | "tbody" | "thead" | "tfoot" => .inTableBody
      | "caption" => .inCaption
      | "colgroup" => .inColumnGroup
      | "table" => .inTable
      | "template" => b.templateModes.head?.getD .inTemplate
      | "head" => if outer.isEmpty then b.modeFor outer else .inHead
      | "body" => .inBody
      | "frameset" => .inFrameset
      | "html" => if b.head.isNone then .beforeHead else .afterHead
      | _ => b.modeFor outer

/-- Puts the builder into the mode that the open elements call for. -/
def resetMode (b : Builder) : Builder :=
  { b with mode := b.modeFor b.opened }

end Builder

end ComponentTags.Html
