import ComponentTags.Html.Rules.Body

/-!
# Rules of framesets and of what follows the body

Little is allowed there: blanks, comments and end tags. After the body anything else counts as content
of the body still.
-/

namespace ComponentTags.Html

namespace Builder

/-- After the body. -/
def afterBodyRule (b : Builder) (token : Token) : Outcome :=
  match token with
  | .character c => if isSpace c then b.inBodyRule token else b.againIn .inBody
  | .comment text => (b.insertCommentAt (.inside b.opened.outermost) text).done
  | .startTag t => if t.name == "html" then (b.mergeRoot t).done else b.againIn .inBody
  | .endTag t =>
    if t.name == "html" then { b with mode := .afterAfterBody }.done else b.againIn .inBody
  | .finish | .doctype _ | .slip => b.done

/-- After the end of the document, when it had a body. -/
def afterAfterBodyRule (b : Builder) (token : Token) : Outcome :=
  match token with
  | .character c => if isSpace c then b.inBodyRule token else b.againIn .inBody
  | .comment text => (b.insertCommentAt (.inside Document.root) text).done
  | .startTag t => if t.name == "html" then (b.mergeRoot t).done else b.againIn .inBody
  | .endTag _ => b.againIn .inBody
  | .finish | .doctype _ | .slip => b.done

/-- Applies the end tag of a frameset; the outermost element stays open. -/
def endFrameset (b : Builder) : Builder :=
  if b.opened.length == 1 then b
  else
    let b := b.change List.tail
    if b.opened.currentIsHtml "frameset" then b else { b with mode := .afterFrameset }

/-- Inside of a frameset. -/
def inFramesetRule (b : Builder) : Token → Outcome
  | .character c => (if isSpace c then b.insertChar c else b).done
  | .comment text => (b.insertComment text).done
  | .startTag t =>
    match t.name with
    | "html" => (b.mergeRoot t).done
    | "frameset" => (b.openTag t).done
    | "frame" => (b.insertTag t).done
    | "noframes" => b.startInHead t
    | _ => b.done
  | .endTag t => (if t.name == "frameset" then b.endFrameset else b).done
  | .finish | .doctype _ | .slip => b.done

/-- After a frameset. -/
def afterFramesetRule (b : Builder) : Token → Outcome
  | .character c => (if isSpace c then b.insertChar c else b).done
  | .comment text => (b.insertComment text).done
  | .startTag t =>
    match t.name with
    | "html" => (b.mergeRoot t).done
    | "noframes" => b.startInHead t
    | _ => b.done
  | .endTag t => (if t.name == "html" then { b with mode := .afterAfterFrameset } else b).done
  | .finish | .doctype _ | .slip => b.done

/-- After the end of the document, when it had a frameset. -/
def afterAfterFramesetRule (b : Builder) (token : Token) : Outcome :=
  match token with
  | .character c => if isSpace c then b.inBodyRule token else b.done
  | .comment text => (b.insertCommentAt (.inside Document.root) text).done
  | .startTag t =>
    match t.name with
    | "html" => (b.mergeRoot t).done
    | "noframes" => b.startInHead t
    | _ => b.done
  | .endTag _ | .finish | .doctype _ | .slip => b.done

end Builder

end ComponentTags.Html
