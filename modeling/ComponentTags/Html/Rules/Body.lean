import ComponentTags.Html.Foreign
import ComponentTags.Html.Rules.Head

/-!
# Rules of the body

Start tags and end tags are sorted into roles first; a tag with no role of its own opens an element or
closes it.
-/

namespace ComponentTags.Html

/-! ## Roles -/

/-- What a start tag does in the body. -/
inductive StartRole where
  | root
  | headContent
  | body
  | frameset
  | block
  | heading
  | preformatted
  | form
  | listItem
  | definition
  | plaintext
  | button
  | link
  | formatting
  | nobr
  | marked
  | table
  | empty
  | input
  | quietEmpty
  | rule
  | image
  | textarea
  | xmp
  | iframe
  | rawText
  | select
  | choice
  | rubyBase
  | rubyText
  | foreign (space : Space)
  | stray
  | other
deriving DecidableEq, Repr

/-- The tags of blocks that start and end in the same way. -/
def blockTags : List String :=
  ["address", "article", "aside", "blockquote", "center", "details", "dialog", "dir", "div", "dl",
    "fieldset", "figcaption", "figure", "footer", "header", "hgroup", "main", "menu", "nav", "ol",
    "search", "section", "summary", "ul"]

/-- The tags of headings. -/
def headingTags : List String :=
  ["h1", "h2", "h3", "h4", "h5", "h6"]

/-- The tags of formatting elements that have no further rule. -/
def formattingTags : List String :=
  ["b", "big", "code", "em", "font", "i", "s", "small", "strike", "strong", "tt", "u"]

/-- The tags of elements that formatting is not reopened across. -/
def markedTags : List String :=
  ["applet", "marquee", "object"]

/-- The start tags with a role. -/
def startRoles : List (StartRole × List String) := [
  (.root, ["html"]), (.headContent, headTags), (.body, ["body"]), (.frameset, ["frameset"]),
  (.block, blockTags ++ ["p"]), (.heading, headingTags), (.preformatted, ["pre", "listing"]),
  (.form, ["form"]), (.listItem, ["li"]), (.definition, ["dd", "dt"]), (.plaintext, ["plaintext"]),
  (.button, ["button"]), (.link, ["a"]), (.formatting, formattingTags), (.nobr, ["nobr"]),
  (.marked, markedTags), (.table, ["table"]),
  (.empty, ["area", "br", "embed", "img", "keygen", "wbr"]), (.input, ["input"]),
  (.quietEmpty, ["param", "source", "track"]), (.rule, ["hr"]), (.image, ["image"]),
  (.textarea, ["textarea"]), (.xmp, ["xmp"]), (.iframe, ["iframe"]),
  (.rawText, ["noembed", "noscript"]), (.select, ["select"]), (.choice, ["optgroup", "option"]),
  (.rubyBase, ["rb", "rtc"]), (.rubyText, ["rp", "rt"]), (.foreign .mathml, ["math"]),
  (.foreign .svg, ["svg"]),
  (.stray,
    ["caption", "col", "colgroup", "frame", "head", "tbody", "td", "tfoot", "th", "thead", "tr"])]

/-- The role of a start tag. -/
def StartRole.ofTag (tag : String) : StartRole :=
  ((startRoles.find? fun (_, tags) => tags.contains tag).map (·.1)).getD .other

/-- What an end tag does in the body. -/
inductive EndRole where
  | template
  | body
  | root
  | block
  | form
  | paragraph
  | listItem
  | definition
  | heading
  | formatting
  | marked
  | lineBreak
  | other
deriving DecidableEq, Repr

/-- The end tags with a role. -/
def endRoles : List (EndRole × List String) := [
  (.template, ["template"]), (.body, ["body"]), (.root, ["html"]),
  (.block, blockTags ++ ["button", "listing", "pre"]), (.form, ["form"]), (.paragraph, ["p"]),
  (.listItem, ["li"]), (.definition, ["dd", "dt"]), (.heading, headingTags),
  (.formatting, formattingTags ++ ["a", "nobr"]), (.marked, markedTags), (.lineBreak, ["br"])]

/-- The role of an end tag. -/
def EndRole.ofTag (tag : String) : EndRole :=
  ((endRoles.find? fun (_, tags) => tags.contains tag).map (·.1)).getD .other

namespace Builder

/-! ## Parts of the rules -/

/-- Inserts an element of a vocabulary for a tag, and opens it unless the tag closes itself. -/
def startForeign (b : Builder) (name : Name) (t : Tag) : Builder :=
  let attributes := foreignAttributes name.space t
  if t.selfClosing then (b.insertElement name attributes).1 else (b.openElement name attributes).1

/-- Closes the paragraph that is open in the current button, if there is one. -/
def endParagraph (b : Builder) : Builder :=
  b.change (·.closeOpenParagraph)

/-- Closes the current element if it is the HTML element of a tag. -/
def closeCurrent (b : Builder) (tag : String) : Builder :=
  if b.opened.currentIsHtml tag then b.change List.tail else b

/-- Closes elements through that of a tag, if it is open with no boundary inside of it. -/
def closeInScope (b : Builder) (boundary : Name → Bool) (tag : String) : Builder :=
  if b.opened.hasInScope boundary tag then b.change (·.closeTag tag) else b

/-- Whether an input is hidden. -/
def isHidden (t : Tag) : Bool :=
  (t.attribute? "type").any fun value => value.toLower == "hidden"

/-- Closes the item that a new item of one of some tags ends; the search stops at a special element
other than a plain container. -/
def endItem (b : Builder) (tags : List String) : Builder :=
  let stops := fun (n : Name) => n.isSpecial && !n.isOneOf ["address", "div", "p"]
  match b.opened.find? fun e => e.name.isOneOf tags || stops e.name with
  | some e => if e.name.isOneOf tags then b.change (·.closeTag e.name.tag) else b
  | none => b

/-- Inserts an element that has no content. -/
def insertEmpty (b : Builder) (t : Tag) : Builder :=
  (b.reopenFormatting.insertTag t).noFrameset

/-- Replaces the body by a frameset, where that is still possible. -/
def startFrameset (b : Builder) (t : Tag) : Builder :=
  if !b.framesetOk then b
  else
    match b.opened.body? with
    | none => b
    | some body =>
      let outermost := b.opened.drop (b.opened.length - 1)
      let b := { b with document := b.document.detach body, opened := outermost }
      { b.openTag t with mode := .inFrameset }

/-- Opens a selection list. -/
def startSelect (b : Builder) (t : Tag) : Builder :=
  let inTable := [.inTable, .inCaption, .inTableBody, .inRow, .inCell].contains b.mode
  let b := (b.reopenFormatting.openTag t).noFrameset
  { b with mode := if inTable then .inSelectInTable else .inSelect }

/-- Applies the end tag of a form. -/
def endForm (b : Builder) : Builder :=
  if b.inTemplate then b.closeInScope (·.isBoundary) "form"
  else
    match b.form with
    | none => b
    | some node =>
      let b := { b with form := none }
      if OpenElements.inScope (·.isBoundary) (·.node == node) b.opened then
        b.change fun es => es.closeImplied.remove node
      else b

/-! ## The body -/

/-- Applies a start tag in the body. -/
def startInBody (b : Builder) (t : Tag) : Outcome :=
  match StartRole.ofTag t.name with
  | .root => (b.mergeRoot t).done
  | .headContent => b.startInHead t
  | .body =>
    match b.opened.body? with
    | some node =>
      if b.inTemplate then b.done
      else { b.noFrameset with document := b.document.addAttributes node t.attributes }.done
    | none => b.done
  | .frameset => (b.startFrameset t).done
  | .block => (b.endParagraph.openTag t).done
  | .heading =>
    let b := b.endParagraph
    let b := if b.opened.currentIs (·.isHeading) then b.change List.tail else b
    (b.openTag t).done
  | .preformatted => { (b.endParagraph.openTag t).noFrameset with skipNewline := true }.done
  | .form =>
    if b.inTemplate then (b.endParagraph.openTag t).done
    else if b.form.isSome then b.done
    else
      let (b, node) := b.endParagraph.openElement { tag := t.name } t.attributes
      { b with form := some node }.done
  | .listItem => ((b.endItem ["li"]).endParagraph.openTag t).noFrameset.done
  | .definition => ((b.endItem ["dd", "dt"]).endParagraph.openTag t).noFrameset.done
  | .plaintext => (b.endParagraph.openTag t, .text .plaintext)
  | .button =>
    ((b.closeInScope (·.isBoundary) "button").reopenFormatting.openTag t).noFrameset.done
  | .link => (b.closeLink.reopenFormatting.openFormatting t).done
  | .formatting => (b.reopenFormatting.openFormatting t).done
  | .nobr =>
    let b := b.reopenFormatting
    let b :=
      if b.opened.hasInScope (·.isBoundary) "nobr" then
        (b.closeFormatting "nobr").reopenFormatting
      else b
    (b.openFormatting t).done
  | .marked => (b.reopenFormatting.openTag t).mark.noFrameset.done
  | .table =>
    let b := if b.oldStyle then b else b.endParagraph
    { (b.openTag t).noFrameset with mode := .inTable }.done
  | .empty => (b.insertEmpty t).done
  | .input => if isHidden t then (b.reopenFormatting.insertTag t).done else (b.insertEmpty t).done
  | .quietEmpty => (b.insertTag t).done
  | .rule => (b.endParagraph.insertTag t).noFrameset.done
  | .image => (b.insertEmpty { t with name := "img" }).done
  | .textarea => { b.noFrameset with skipNewline := true }.openText t (.escapable t.name)
  | .xmp => b.endParagraph.reopenFormatting.noFrameset.openText t (.raw t.name)
  | .iframe => b.noFrameset.openText t (.raw t.name)
  | .rawText => b.openText t (.raw t.name)
  | .select => (b.startSelect t).done
  | .choice => ((b.closeCurrent "option").reopenFormatting.openTag t).done
  | .rubyBase =>
    let inRuby := b.opened.hasInScope (·.isBoundary) "ruby"
    ((if inRuby then b.change (·.closeImplied) else b).openTag t).done
  | .rubyText =>
    let inRuby := b.opened.hasInScope (·.isBoundary) "ruby"
    ((if inRuby then b.change (·.closeImpliedExcept "rtc") else b).openTag t).done
  | .foreign space => (b.startForeign ⟨space, t.name⟩ t).done
  | .stray => b.done
  | .other => (b.reopenFormatting.openTag t).done

/-- Applies an end tag in the body. -/
def endInBody (b : Builder) (t : Tag) : Outcome :=
  match EndRole.ofTag t.name with
  | .template => b.endTemplate
  | .body =>
    if b.opened.hasInScope (·.isBoundary) "body" then { b with mode := .afterBody }.done else b.done
  | .root =>
    if b.opened.hasInScope (·.isBoundary) "body" then b.againIn .afterBody else b.done
  | .block => (b.closeInScope (·.isBoundary) t.name).done
  | .form => b.endForm.done
  | .paragraph =>
    if b.opened.hasInScope (·.isButtonBoundary) "p" then b.endParagraph.done
    else ((b.openImplied "p").change List.tail).done
  | .listItem => (b.closeInScope (·.isListBoundary) t.name).done
  | .definition => (b.closeInScope (·.isBoundary) t.name).done
  | .heading =>
    if OpenElements.inScope (·.isBoundary) (·.name.isHeading) b.opened then
      (b.change (·.closeThrough (·.isHeading))).done
    else b.done
  | .formatting => (b.closeFormatting t.name).done
  | .marked =>
    if b.opened.hasInScope (·.isBoundary) t.name then
      (b.change (·.closeTag t.name)).clearFormatting.done
    else b.done
  | .lineBreak => (b.insertEmpty { name := "br" }).done
  | .other => (b.change (·.closeOther t.name)).done

/-- Applies the end of the document while templates are open: the innermost one ends. -/
def finishTemplate (b : Builder) : Outcome :=
  if b.inTemplate then (b.closeTemplate, .again) else b.done

/-- Inside of the body. -/
def inBodyRule (b : Builder) : Token → Outcome
  | .character c =>
    if c == '\x00' then b.done
    else
      let b := b.reopenFormatting
      ((if isSpace c then b else b.noFrameset).insertChar c).done
  | .comment text => (b.insertComment text).done
  | .startTag t => b.startInBody t
  | .endTag t => b.endInBody t
  | .finish => if b.templateModes.isEmpty then b.done else b.finishTemplate
  | .doctype _ | .slip => b.done

end Builder

end ComponentTags.Html
