import ComponentTags.Html.OldStyle
import ComponentTags.Html.Rules.Frameset
import ComponentTags.Html.Rules.Select
import ComponentTags.Html.Rules.Table

/-!
# From tokens to a document

Each token goes to the rule of the current mode, or, inside of SVG and MathML, to the rule of foreign
content. A rule may put the builder into another mode and have the token looked at again.
-/

namespace ComponentTags.Html

namespace Builder

/-! ## Templates and modes -/

/-- Treats a token in a template as in another mode from now on. -/
def switchTemplate (b : Builder) (mode : Mode) : Outcome :=
  { b with templateModes := mode :: b.templateModes.tail }.againIn mode

/-- Inside of a template, as long as nothing has shown what it holds. -/
def inTemplateRule (b : Builder) (token : Token) : Outcome :=
  match token with
  | .character _ | .comment _ => b.inBodyRule token
  | .startTag t =>
    if headTags.contains t.name then b.startInHead t
    else
      match t.name with
      | "caption" | "colgroup" | "tbody" | "tfoot" | "thead" => b.switchTemplate .inTable
      | "col" => b.switchTemplate .inColumnGroup
      | "tr" => b.switchTemplate .inTableBody
      | "td" | "th" => b.switchTemplate .inRow
      | _ => b.switchTemplate .inBody
  | .endTag t => if t.name == "template" then b.endTemplate else b.done
  | .finish => b.finishTemplate
  | .doctype _ | .slip => b.done

/-- Applies the rule of a mode. -/
def rule (b : Builder) (mode : Mode) (token : Token) : Outcome :=
  match mode with
  | .initial => b.initialRule token
  | .beforeHtml => b.beforeHtmlRule token
  | .beforeHead => b.beforeHeadRule token
  | .inHead => b.inHeadRule token
  | .afterHead => b.afterHeadRule token
  | .inBody => b.inBodyRule token
  | .text => b.textRule token
  | .inTable => b.inTableRule token
  | .inTableText => b.inTableTextRule token
  | .inCaption => b.inCaptionRule token
  | .inColumnGroup => b.inColumnGroupRule token
  | .inTableBody => b.inTableBodyRule token
  | .inRow => b.inRowRule token
  | .inCell => b.inCellRule token
  | .inSelect => b.inSelectRule token
  | .inSelectInTable => b.inSelectInTableRule token
  | .inTemplate => b.inTemplateRule token
  | .afterBody => b.afterBodyRule token
  | .inFrameset => b.inFramesetRule token
  | .afterFrameset => b.afterFramesetRule token
  | .afterAfterBody => b.afterAfterBodyRule token
  | .afterAfterFrameset => b.afterAfterFramesetRule token

/-! ## Foreign content -/

/-- Whether a token is one of foreign content. -/
def isForeign (b : Builder) (token : Token) : Bool :=
  match b.opened.head? with
  | none => false
  | some e =>
    let isStart := match token with
      | .startTag _ => true
      | _ => false
    let isText := match token with
      | .character _ => true
      | _ => false
    let isTag := fun (tags : List String) => match token with
      | .startTag t => tags.contains t.name
      | _ => false
    token != .finish && e.name.space != .html &&
      !(e.name.holdsText && (isText || (isStart && !isTag ["mglyph", "malignmark"]))) &&
      !(e.name.holdsHtml && (isText || isStart)) &&
      !(e.name == ⟨.mathml, "annotation-xml"⟩ &&
        (isTag ["svg"] || (e.holdsHtml && (isText || isStart))))

/-- The start tags that end foreign content. -/
def breakoutTags : List String := [
  "b", "big", "blockquote", "body", "br", "center", "code", "dd", "div", "dl", "dt", "em", "embed",
  "h1", "h2", "h3", "h4", "h5", "h6", "head", "hr", "i", "img", "li", "listing", "menu", "meta",
  "nobr", "ol", "p", "pre", "ruby", "s", "small", "span", "strong", "strike", "sub", "sup", "table",
  "tt", "u", "ul", "var"]

/-- Whether a start tag ends foreign content. -/
def breaksOut (t : Tag) : Bool :=
  breakoutTags.contains t.name ||
    (t.name == "font" && t.attributes.any fun a => ["color", "face", "size"].contains a.name)

/-- Ends foreign content, and applies the rule of the mode. -/
def breakOut (b : Builder) (token : Token) : Outcome :=
  let b := b.change (·.closeDownTo fun n => n.space == .html || n.holdsText || n.holdsHtml)
  b.rule b.mode token

/-- Applies a start tag in foreign content. -/
def startInForeign (b : Builder) (t : Tag) : Builder :=
  let space := (b.opened.head?.map (·.name.space)).getD .html
  let tag := if space == .svg then respell svgTags t.name else t.name
  b.startForeign ⟨space, tag⟩ t

/-- Applies an end tag in foreign content: it closes the innermost element of its name, unless an HTML
element comes first, where the rule of the mode applies. The outermost element stays open. -/
def endInForeign (b : Builder) (t : Tag) (first : Bool) : OpenElements → Outcome
  | [] | [_] => b.done
  | e :: outer =>
    if !first && e.name.space == .html then b.rule b.mode (.endTag t)
    else if e.name.tag.toLower == t.name then { b with opened := outer }.done
    else b.endInForeign t false outer

/-- Inside of foreign content. -/
def foreignRule (b : Builder) (token : Token) : Outcome :=
  match token with
  | .character c =>
    if c == '\x00' then (b.insertChar replacement).done
    else ((if isSpace c then b else b.noFrameset).insertChar c).done
  | .comment text => (b.insertComment text).done
  | .startTag t => if breaksOut t then b.breakOut token else (b.startInForeign t).done
  | .endTag t =>
    if t.name == "br" || t.name == "p" then b.breakOut token else b.endInForeign t true b.opened
  | .doctype _ | .slip | .finish => b.done

/-! ## The machine -/

/-- Applies rules until the token has been dealt with, in so many rounds at most. -/
def applyIn (b : Builder) (token : Token) : Nat → Builder × Option TextMode
  | 0 => (b, none)
  | rounds + 1 =>
    let (b, verdict) := if b.isForeign token then b.foreignRule token else b.rule b.mode token
    match verdict with
    | .done => (b, none)
    | .again => b.applyIn token rounds
    | .text mode => (b, some mode)

/-- Applies rules until the token has been dealt with. A token is looked at again only when elements
have been closed for it, or when what was left out before it has been put in. -/
def apply (b : Builder) (token : Token) : Builder × Option TextMode :=
  b.applyIn token (2 * b.opened.length + 16)

/-- Takes a token. If characters have a new meaning from here on, that is given too. -/
def take (b : Builder) (token : Token) : Builder × Option TextMode :=
  let next := { b with skipNewline := false }
  match token with
  | .slip => (next, none)
  | .doctype d =>
    if b.mode == .initial then
      ({ next.insertDoctype with mode := .beforeHtml, oldStyle := d.isOldStyle }, none)
    else (next, none)
  | .character c => if b.skipNewline && c == '\n' then (next, none) else next.apply token
  | _ => next.apply token

/-- Whether sections of characters are allowed, as they are in foreign content only. -/
def allowsSections (b : Builder) : Bool :=
  b.opened.currentIs (·.space != .html)

end Builder

end ComponentTags.Html
