import ComponentTags.Html.Rules.Body

/-!
# Rules of tables

Parts of a table that are left out are put in. What does not belong inside of a table is treated as in
the body, but placed before the table.
-/

namespace ComponentTags.Html

namespace Builder

/-- Applies the rules of the body to a token that does not belong inside of the table. -/
def foster (b : Builder) (token : Token) : Outcome :=
  let (b, verdict) := { b with fostering := true }.inBodyRule token
  ({ b with fostering := false }, verdict)

/-- Closes elements until a table or a template is current. -/
def clearToTable (b : Builder) : Builder :=
  b.change (·.closeDownTo (·.isTableBoundary))

/-- Closes elements until one that may hold rows is current. -/
def clearToRowHolder (b : Builder) : Builder :=
  b.change (·.closeDownTo (·.isRowHolder))

/-- Closes elements until one that may hold cells is current. -/
def clearToCellHolder (b : Builder) : Builder :=
  b.change (·.closeDownTo (·.isCellHolder))

/-- Whether a part of the table is open. -/
def hasInTable (b : Builder) (tag : String) : Bool :=
  b.opened.hasInScope (·.isTableBoundary) tag

/-! ## The table itself -/

/-- Applies a start tag in a table. -/
def startInTable (b : Builder) (t : Tag) : Outcome :=
  match t.name with
  | "caption" => { b.clearToTable.mark.openTag t with mode := .inCaption }.done
  | "colgroup" => { b.clearToTable.openTag t with mode := .inColumnGroup }.done
  | "col" => (b.clearToTable.openImplied "colgroup").againIn .inColumnGroup
  | "tbody" | "tfoot" | "thead" => { b.clearToTable.openTag t with mode := .inTableBody }.done
  | "td" | "th" | "tr" => (b.clearToTable.openImplied "tbody").againIn .inTableBody
  | "table" =>
    if b.hasInTable "table" then ((b.change (·.closeTag "table")).resetMode, .again) else b.done
  | "style" | "script" | "template" => b.startInHead t
  | "input" => if isHidden t then (b.insertTag t).done else b.foster (.startTag t)
  | "form" =>
    if b.inTemplate || b.form.isSome then b.done
    else
      let (b, node) := b.insertElement { tag := t.name } t.attributes
      { b with form := some node }.done
  | _ => b.foster (.startTag t)

/-- Applies an end tag in a table. -/
def endInTable (b : Builder) (t : Tag) : Outcome :=
  match t.name with
  | "table" =>
    if b.hasInTable "table" then (b.change (·.closeTag "table")).resetMode.done else b.done
  | "body" | "caption" | "col" | "colgroup" | "html" | "tbody" | "td" | "tfoot" | "th" | "thead"
  | "tr" => b.done
  | "template" => b.endTemplate
  | _ => b.foster (.endTag t)

/-- Inside of a table. -/
def inTableRule (b : Builder) (token : Token) : Outcome :=
  match token with
  | .character _ =>
    if b.opened.currentIs (·.isTablePart) then
      ({ b with textReturn := b.mode, mode := .inTableText, tableText := "" }, .again)
    else b.foster token
  | .comment text => (b.insertComment text).done
  | .startTag t => b.startInTable t
  | .endTag t => b.endInTable t
  | .finish => b.inBodyRule token
  | .doctype _ | .slip => b.done

/-- Places the text that was read in a table: blanks stay in the table. -/
def placeTableText (b : Builder) : Builder :=
  let text := b.tableText.toList
  let b := { b with tableText := "" }
  if text.all isSpace then text.foldl insertChar b
  else text.foldl (fun b c => (b.foster (.character c)).1) b

/-- Inside of text in a table. -/
def inTableTextRule (b : Builder) : Token → Outcome
  | .character c => (if c == '\x00' then b else { b with tableText := b.tableText.push c }).done
  | _ => b.placeTableText.againIn b.textReturn

/-! ## Captions and columns -/

/-- Ends the caption if it is open, and treats the token as in the table where `next` says so. -/
def endCaption (b : Builder) (next : Verdict) : Outcome :=
  if b.hasInTable "caption" then
    ({ (b.change (·.closeTag "caption")).clearFormatting with mode := .inTable }, next)
  else b.done

/-- Inside of a caption. -/
def inCaptionRule (b : Builder) (token : Token) : Outcome :=
  match token with
  | .startTag t =>
    match t.name with
    | "caption" | "col" | "colgroup" | "tbody" | "td" | "tfoot" | "th" | "thead" | "tr" =>
      b.endCaption .again
    | _ => b.inBodyRule token
  | .endTag t =>
    match t.name with
    | "caption" => b.endCaption .done
    | "table" => b.endCaption .again
    | "body" | "col" | "colgroup" | "html" | "tbody" | "td" | "tfoot" | "th" | "thead" | "tr" =>
      b.done
    | _ => b.inBodyRule token
  | _ => b.inBodyRule token

/-- Inside of a group of columns. -/
def inColumnGroupRule (b : Builder) (token : Token) : Outcome :=
  let otherwise :=
    if b.opened.currentIsHtml "colgroup" then (b.change List.tail).againIn .inTable else b.done
  match token with
  | .character c => if isSpace c then (b.insertChar c).done else otherwise
  | .comment text => (b.insertComment text).done
  | .startTag t =>
    match t.name with
    | "html" => (b.mergeRoot t).done
    | "col" => (b.insertTag t).done
    | "template" => b.startInHead t
    | _ => otherwise
  | .endTag t =>
    match t.name with
    | "colgroup" =>
      if b.opened.currentIsHtml "colgroup" then { b.change List.tail with mode := .inTable }.done
      else b.done
    | "col" => b.done
    | "template" => b.endTemplate
    | _ => otherwise
  | .finish => b.inBodyRule token
  | .doctype _ | .slip => b.done

/-! ## Rows and cells -/

/-- Ends the current part of the table, and treats the token as in the table where `next` says so. -/
def endTableBody (b : Builder) (next : Verdict) : Outcome :=
  ({ b.clearToRowHolder.change List.tail with mode := .inTable }, next)

/-- Inside of a part of a table that holds rows. -/
def inTableBodyRule (b : Builder) (token : Token) : Outcome :=
  let isPart := fun (e : Entry) => e.name.isOneOf ["table", "tbody", "tfoot"]
  let leave :=
    if OpenElements.inScope (·.isTableBoundary) isPart b.opened then b.endTableBody .again
    else b.done
  match token with
  | .startTag t =>
    match t.name with
    | "tr" => { b.clearToRowHolder.openTag t with mode := .inRow }.done
    | "th" | "td" => (b.clearToRowHolder.openImplied "tr").againIn .inRow
    | "caption" | "col" | "colgroup" | "tbody" | "tfoot" | "thead" => leave
    | _ => b.inTableRule token
  | .endTag t =>
    match t.name with
    | "tbody" | "tfoot" | "thead" => if b.hasInTable t.name then b.endTableBody .done else b.done
    | "table" => leave
    | "body" | "caption" | "col" | "colgroup" | "html" | "td" | "th" | "tr" => b.done
    | _ => b.inTableRule token
  | _ => b.inTableRule token

/-- Ends the current row if one is open, and treats the token as outside of it where `next` says
so. -/
def endRow (b : Builder) (next : Verdict) : Outcome :=
  if b.hasInTable "tr" then
    ({ b.clearToCellHolder.change List.tail with mode := .inTableBody }, next)
  else b.done

/-- Inside of a row. -/
def inRowRule (b : Builder) (token : Token) : Outcome :=
  match token with
  | .startTag t =>
    match t.name with
    | "th" | "td" => { (b.clearToCellHolder.openTag t).mark with mode := .inCell }.done
    | "caption" | "col" | "colgroup" | "tbody" | "tfoot" | "thead" | "tr" => b.endRow .again
    | _ => b.inTableRule token
  | .endTag t =>
    match t.name with
    | "tr" => b.endRow .done
    | "table" => b.endRow .again
    | "tbody" | "tfoot" | "thead" => if b.hasInTable t.name then b.endRow .again else b.done
    | "body" | "caption" | "col" | "colgroup" | "html" | "td" | "th" => b.done
    | _ => b.inTableRule token
  | _ => b.inTableRule token

/-- Ends the current cell, and treats the token as in the row where `next` says so. -/
def endCell (b : Builder) (isEnd : Name → Bool) (next : Verdict) : Outcome :=
  ({ (b.change (·.closeThrough isEnd)).clearFormatting with mode := .inRow }, next)

/-- Inside of a cell. -/
def inCellRule (b : Builder) (token : Token) : Outcome :=
  match token with
  | .startTag t =>
    match t.name with
    | "caption" | "col" | "colgroup" | "tbody" | "td" | "tfoot" | "th" | "thead" | "tr" =>
      if OpenElements.inScope (·.isTableBoundary) (·.name.isCell) b.opened then
        b.endCell (·.isCell) .again
      else b.done
    | _ => b.inBodyRule token
  | .endTag t =>
    match t.name with
    | "td" | "th" =>
      if b.hasInTable t.name then b.endCell (·.isHtml t.name) .done else b.done
    | "table" | "tbody" | "tfoot" | "thead" | "tr" =>
      if b.hasInTable t.name then b.endCell (·.isCell) .again else b.done
    | "body" | "caption" | "col" | "colgroup" | "html" => b.done
    | _ => b.inBodyRule token
  | _ => b.inBodyRule token

end Builder

end ComponentTags.Html
