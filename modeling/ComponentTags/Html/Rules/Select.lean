import ComponentTags.Html.Rules.Body

/-!
# Rules of selection lists

Inside of a selection list only options and their groups are elements; other tags are dropped or end
the list.
-/

namespace ComponentTags.Html

namespace Builder

/-- Closes the option and the group of options that are current. -/
def closeGroup (b : Builder) : Builder :=
  (b.closeCurrent "option").closeCurrent "optgroup"

/-- Ends the selection list and looks at the token again, if the list is in scope. -/
def leaveSelect (b : Builder) : Outcome :=
  if b.opened.hasInScope (·.isSelectBoundary) "select" then
    ((b.change (·.closeTag "select")).resetMode, .again)
  else b.done

/-- Ends the selection list, if it is in scope. -/
def endSelect (b : Builder) : Builder :=
  if b.opened.hasInScope (·.isSelectBoundary) "select" then
    (b.change (·.closeTag "select")).resetMode
  else b

/-- Whether the current element is an option directly inside of a group. -/
def isGroupedOption (b : Builder) : Bool :=
  match b.opened with
  | e :: outer :: _ => e.name.isHtml "option" && outer.name.isHtml "optgroup"
  | _ => false

/-- Inside of a selection list. -/
def inSelectRule (b : Builder) (token : Token) : Outcome :=
  match token with
  | .character c => if c == '\x00' then b.done else (b.insertChar c).done
  | .comment text => (b.insertComment text).done
  | .startTag t =>
    match t.name with
    | "html" => (b.mergeRoot t).done
    | "option" => ((b.closeCurrent "option").openTag t).done
    | "optgroup" => (b.closeGroup.openTag t).done
    | "hr" => (b.closeGroup.insertTag t).done
    | "select" => b.endSelect.done
    | "input" | "keygen" | "textarea" => b.leaveSelect
    | "script" | "template" => b.startInHead t
    | _ => b.done
  | .endTag t =>
    match t.name with
    | "optgroup" =>
      ((if b.isGroupedOption then b.change List.tail else b).closeCurrent "optgroup").done
    | "option" => (b.closeCurrent "option").done
    | "select" => b.endSelect.done
    | "template" => b.endTemplate
    | _ => b.done
  | .finish => b.inBodyRule token
  | .doctype _ | .slip => b.done

/-- Inside of a selection list in a table: tags of the table end the list. -/
def inSelectInTableRule (b : Builder) (token : Token) : Outcome :=
  let isOfTable := ["caption", "table", "tbody", "tfoot", "thead", "tr", "td", "th"].contains
  let leave := ((b.change (·.closeTag "select")).resetMode, Verdict.again)
  match token with
  | .startTag t => if isOfTable t.name then leave else b.inSelectRule token
  | .endTag t =>
    if isOfTable t.name then
      if b.opened.hasInScope (·.isTableBoundary) t.name then leave else b.done
    else b.inSelectRule token
  | _ => b.inSelectRule token

end Builder

end ComponentTags.Html
