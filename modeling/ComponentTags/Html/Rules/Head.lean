import ComponentTags.Html.Formatting

/-!
# Rules up to the body

A document may start with anything: what is left out (the root, the head, the body) is put in.
-/

namespace ComponentTags.Html

/-- End tags before the body that count as content; any other is dropped. -/
def isEarlyEnd (tag : String) : Bool :=
  ["body", "html", "br"].contains tag

/-- Tags of elements that belong into the head and are never opened. -/
def emptyHeadTags : List String :=
  ["base", "basefont", "bgsound", "link", "meta"]

/-- Tags of elements that belong into the head, wherever they stand. -/
def headTags : List String :=
  emptyHeadTags ++ ["noframes", "script", "style", "template", "title"]

namespace Builder

/-- Applies a start tag that belongs into the head. -/
def startInHead (b : Builder) (t : Tag) : Outcome :=
  match t.name with
  | "title" => b.openText t (.escapable "title")
  | "script" => b.openText t (.script "script" .plain)
  | "noframes" | "style" | "noscript" => b.openText t (.raw t.name)
  | "template" =>
    let b := (b.openTag t).mark.noFrameset
    done { b with mode := .inTemplate, templateModes := .inTemplate :: b.templateModes }
  | _ => (b.insertTag t).done

/-- Closes the innermost template. -/
def closeTemplate (b : Builder) : Builder :=
  let b := (b.change (·.closeTag "template")).clearFormatting
  { b with templateModes := b.templateModes.tail }.resetMode

/-- Applies the end tag of a template. -/
def endTemplate (b : Builder) : Outcome :=
  (if b.inTemplate then b.closeTemplate else b).done

/-- Before anything but blanks and comments. -/
def initialRule (b : Builder) : Token → Outcome
  | .comment text => (b.insertCommentAt (.inside Document.root) text).done
  | .character c => if isSpace c then b.done else { b with oldStyle := true }.againIn .beforeHtml
  | _ => { b with oldStyle := true }.againIn .beforeHtml

/-- Before the root. -/
def beforeHtmlRule (b : Builder) (token : Token) : Outcome :=
  let otherwise := (b.openRoot []).againIn .beforeHead
  match token with
  | .comment text => (b.insertCommentAt (.inside Document.root) text).done
  | .character c => if isSpace c then b.done else otherwise
  | .startTag t =>
    if t.name == "html" then { b.openRoot t.attributes with mode := .beforeHead }.done
    else otherwise
  | .endTag t => if t.name == "head" || isEarlyEnd t.name then otherwise else b.done
  | _ => otherwise

/-- Opens the head for a tag. -/
def openHead (b : Builder) (t : Tag) : Builder :=
  let (b, node) := b.openElement { tag := "head" } t.attributes
  { b with head := some node, mode := .inHead }

/-- Before the head. -/
def beforeHeadRule (b : Builder) (token : Token) : Outcome :=
  let otherwise := (b.openHead { name := "head" }).againIn .inHead
  match token with
  | .comment text => (b.insertComment text).done
  | .character c => if isSpace c then b.done else otherwise
  | .startTag t =>
    match t.name with
    | "html" => (b.mergeRoot t).done
    | "head" => (b.openHead t).done
    | _ => otherwise
  | .endTag t => if t.name == "head" || isEarlyEnd t.name then otherwise else b.done
  | _ => otherwise

/-- Inside of the head. -/
def inHeadRule (b : Builder) (token : Token) : Outcome :=
  let otherwise := (b.change List.tail).againIn .afterHead
  match token with
  | .comment text => (b.insertComment text).done
  | .character c => if isSpace c then (b.insertChar c).done else otherwise
  | .startTag t =>
    if t.name == "html" then (b.mergeRoot t).done
    else if t.name == "head" then b.done
    else if t.name == "noscript" || headTags.contains t.name then b.startInHead t
    else otherwise
  | .endTag t =>
    if t.name == "head" then { b.change List.tail with mode := .afterHead }.done
    else if t.name == "template" then b.endTemplate
    else if isEarlyEnd t.name then otherwise
    else b.done
  | _ => otherwise

/-- Applies a start tag that belongs into the head when the head has been closed: the head is open as
long as that takes. -/
def startInClosedHead (b : Builder) (t : Tag) : Outcome :=
  match b.head with
  | none => b.startInHead t
  | some node =>
    let (b, verdict) := (b.change (⟨node, { tag := "head" }, false⟩ :: ·)).startInHead t
    (b.change (·.remove node), verdict)

/-- Between the head and the body. -/
def afterHeadRule (b : Builder) (token : Token) : Outcome :=
  let otherwise := (b.openImplied "body").againIn .inBody
  match token with
  | .comment text => (b.insertComment text).done
  | .character c => if isSpace c then (b.insertChar c).done else otherwise
  | .startTag t =>
    if t.name == "html" then (b.mergeRoot t).done
    else if t.name == "head" then b.done
    else if t.name == "body" then { (b.openTag t).noFrameset with mode := .inBody }.done
    else if t.name == "frameset" then { b.openTag t with mode := .inFrameset }.done
    else if headTags.contains t.name then b.startInClosedHead t
    else otherwise
  | .endTag t =>
    if t.name == "template" then b.endTemplate
    else if isEarlyEnd t.name then otherwise
    else b.done
  | _ => otherwise

/-- Inside of an element that holds text only. -/
def textRule (b : Builder) : Token → Outcome
  | .character c => (b.insertChar c).done
  | .finish => (b.change List.tail).againIn b.textReturn
  | .endTag _ => { b.change List.tail with mode := b.textReturn }.done
  | _ => b.done

end Builder

end ComponentTags.Html
