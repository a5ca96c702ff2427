import ComponentTags.Html.Reference
import ComponentTags.Html.Token

/-!
# From characters to tokens

A machine that takes one character at a time. Its state holds everything it has read of an unfinished
token, so a text can be cut anywhere: reading the parts one after the other is reading the whole.

Where a character ends one thing and already belongs to the next, the step of the next state is taken
with the same character; the states are defined in such an order that this never goes round.
-/

namespace ComponentTags.Html

/-- How far a script is hidden in what looks like a comment. The number counts the dashes that were
just read, up to two. -/
inductive ScriptStage where
  | plain
  | escaped (dashes : Nat)
  | doubled (dashes : Nat)
deriving DecidableEq, Repr

/-- What characters outside of tags mean. Where only one end tag is recognized, its name is given. -/
inductive TextMode where
  /-- Markup. -/
  | data
  /-- Text with references. -/
  | escapable (close : String)
  /-- Text as it is. -/
  | raw (close : String)
  | script (close : String) (stage : ScriptStage)
  /-- Text up to the end of the document. -/
  | plaintext
deriving DecidableEq, Repr

/-- The name of the end tag that ends the text; none in markup. -/
def TextMode.close : TextMode → String
  | data | plaintext => ""
  | escapable name | raw name | script name _ => name

/-- A tag that is being read. -/
structure Draft where
  closing : Bool := false
  tag : Tag
deriving DecidableEq, Repr

/-- The draft with an attribute added. -/
def Draft.add (d : Draft) (name value : String) : Draft :=
  { d with tag := d.tag.add name value }

/-- The token of a draft. -/
def Draft.token (d : Draft) : Token :=
  if d.closing then .endTag d.tag else .startTag d.tag

/-- An attribute value that is being read, with the quote around it if there is one. -/
structure ValueDraft where
  draft : Draft
  name : String
  quote : Option Char
  value : String
deriving DecidableEq, Repr

/-- Where a character reference stands. -/
inductive Context where
  | text (mode : TextMode)
  | value (v : ValueDraft)
deriving DecidableEq, Repr

/-- How far a character reference has been read, after its ampersand. -/
inductive ReferencePart where
  | start
  | hash
  | hex (mark : Char)
  | decimal (n : Nat)
  | hexadecimal (n : Nat)
  | name (run : List Char)
deriving DecidableEq, Repr

/-- How far a comment has been read: the dashes (and a mark) held back since they may end it. -/
inductive CommentStage where
  | start
  | startDash
  | inside
  | dash
  | close
  | bang
deriving DecidableEq, Repr

/-- Which identifier of a document type is meant. -/
inductive IdKind where
  | publicId
  | systemId
deriving DecidableEq, Repr

/-- How far a document type has been read. -/
inductive DoctypeStage where
  | beforeName
  | name
  /-- After the name, with what may become one of the two keywords. -/
  | afterName (seen : List Char)
  | afterKeyword (kind : IdKind)
  | quoted (kind : IdKind) (quote : Char)
  | afterId (kind : IdKind)
  | between
  | ignored
deriving DecidableEq, Repr

/-- A state of the machine. -/
inductive State where
  | text (mode : TextMode)
  | reference (context : Context) (part : ReferencePart)
  | tagOpen
  | endTagOpen
  | tagName (d : Draft)
  | beforeAttribute (d : Draft)
  | attributeName (d : Draft) (name : String)
  | afterAttributeName (d : Draft) (name : String)
  | beforeValue (d : Draft) (name : String)
  | value (v : ValueDraft)
  | afterValue (d : Draft)
  | selfClosing (d : Draft)
  /-- After an angle bracket in text with a single end tag. -/
  | textOpen (mode : TextMode)
  | textEndOpen (mode : TextMode)
  | textEndName (mode : TextMode) (seen : List Char)
  /-- After the first mark of what may hide a script, and after its first dash. -/
  | scriptMark (close : String)
  | scriptMarkDash (close : String)
  /-- In the name that may hide a script further, or end that. -/
  | scriptDoubling (close : String) (seen : List Char)
  | scriptUndoubling (close : String) (seen : List Char)
  /-- After an exclamation mark, with what may become a comment or a declaration. -/
  | declaration (seen : List Char)
  | comment (stage : CommentStage) (text : String)
  | oddComment (text : String)
  | doctype (stage : DoctypeStage) (d : Doctype)
  /-- In a section of characters, with up to two closing brackets held back. -/
  | section (brackets : Nat)
deriving DecidableEq, Repr

/-- The tokens that a step gives, and the state it leads to. -/
abbrev Step := List Token × State

/-- Puts tokens before those of a step. -/
def Step.after (tokens : List Token) (s : Step) : Step :=
  (tokens ++ s.1, s.2)

/-- The tokens of some characters. -/
def characters (cs : List Char) : List Token :=
  cs.map .character

/-- Whether a character is blank in markup. -/
def isSpace (c : Char) : Bool :=
  c == ' ' || c == '\n' || c == '\t' || c == '\x0C' || c == '\r'

/-- What is put for a null character. -/
def replacement : Char := '\uFFFD'

/-- A character, or what is put for it if it is null. -/
def orReplacement (c : Char) : Char :=
  if c == '\x00' then replacement else c

/-- The state between tokens of markup. -/
def State.data : State := .text .data

/-! ## Text -/

/-- A step in text. -/
def textStep (mode : TextMode) (c : Char) : Step :=
  match mode with
  | .data =>
    if c == '&' then ([], .reference (.text mode) .start)
    else if c == '<' then ([], .tagOpen)
    else ([.character c], .text mode)
  | .escapable _ =>
    if c == '&' then ([], .reference (.text mode) .start)
    else if c == '<' then ([], .textOpen mode)
    else ([.character (orReplacement c)], .text mode)
  | .raw _ | .script _ .plain =>
    if c == '<' then ([], .textOpen mode)
    else ([.character (orReplacement c)], .text mode)
  | .script close (.escaped dashes) =>
    if c == '-' then ([.character c], .text (.script close (.escaped (min 2 (dashes + 1)))))
    else if c == '<' then ([], .textOpen (.script close (.escaped 0)))
    else if c == '>' && dashes == 2 then ([.character c], .text (.script close .plain))
    else ([.character (orReplacement c)], .text (.script close (.escaped 0)))
  | .script close (.doubled dashes) =>
    if c == '-' then ([.character c], .text (.script close (.doubled (min 2 (dashes + 1)))))
    else if c == '<' then ([.character c], .textOpen (.script close (.doubled 0)))
    else if c == '>' && dashes == 2 then ([.character c], .text (.script close .plain))
    else ([.character (orReplacement c)], .text (.script close (.doubled 0)))
  | .plaintext => ([.character (orReplacement c)], .text mode)

/-! ## Tags -/

/-- A step in an attribute value. -/
def valueStep (v : ValueDraft) (c : Char) : Step :=
  if c == '&' then ([], .reference (.value v) .start)
  else
    match v.quote with
    | some quote =>
      if c == quote then ([], .afterValue (v.draft.add v.name v.value))
      else ([], .value { v with value := v.value.push (orReplacement c) })
    | none =>
      if isSpace c then ([], .beforeAttribute (v.draft.add v.name v.value))
      else if c == '>' then ([(v.draft.add v.name v.value).token], .data)
      else ([], .value { v with value := v.value.push (orReplacement c) })

/-- A step before an attribute. -/
def beforeAttributeStep (d : Draft) (c : Char) : Step :=
  if isSpace c then ([], .beforeAttribute d)
  else if c == '/' then ([], .selfClosing d)
  else if c == '>' then ([d.token], .data)
  else ([], .attributeName d (String.singleton (orReplacement c.toLower)))

/-- A step in an attribute name. -/
def attributeNameStep (d : Draft) (name : String) (c : Char) : Step :=
  if isSpace c then ([], .afterAttributeName d name)
  else if c == '/' then ([], .selfClosing (d.add name ""))
  else if c == '=' then ([], .beforeValue d name)
  else if c == '>' then ([(d.add name "").token], .data)
  else ([], .attributeName d (name.push (orReplacement c.toLower)))

/-- A step after an attribute name. -/
def afterAttributeNameStep (d : Draft) (name : String) (c : Char) : Step :=
  if isSpace c then ([], .afterAttributeName d name)
  else if c == '/' then ([], .selfClosing (d.add name ""))
  else if c == '=' then ([], .beforeValue d name)
  else if c == '>' then ([(d.add name "").token], .data)
  else ([], .attributeName (d.add name "") (String.singleton (orReplacement c.toLower)))

/-- A step before an attribute value. -/
def beforeValueStep (d : Draft) (name : String) (c : Char) : Step :=
  if isSpace c then ([], .beforeValue d name)
  else if c == '"' || c == '\'' then ([], .value ⟨d, name, some c, ""⟩)
  else if c == '>' then ([(d.add name "").token], .data)
  else valueStep ⟨d, name, none, ""⟩ c

/-- A step after a value in quotes. -/
def afterValueStep (d : Draft) (c : Char) : Step :=
  beforeAttributeStep d c

/-- A step after a slash in a tag. -/
def selfClosingStep (d : Draft) (c : Char) : Step :=
  if c == '>' then ([{ d with tag := { d.tag with selfClosing := true } }.token], .data)
  else beforeAttributeStep d c

/-- A step in a tag name. -/
def tagNameStep (d : Draft) (c : Char) : Step :=
  if isSpace c then ([], .beforeAttribute d)
  else if c == '/' then ([], .selfClosing d)
  else if c == '>' then ([d.token], .data)
  else
    ([], .tagName { d with tag := { d.tag with name := d.tag.name.push (orReplacement c.toLower) } })

/-- A step in a comment that does not have the proper form. -/
def oddCommentStep (text : String) (c : Char) : Step :=
  if c == '>' then ([.comment text], .data) else ([], .oddComment (text.push (orReplacement c)))

/-- A step after the angle bracket that may open an end tag. -/
def endTagOpenStep (c : Char) : Step :=
  if c.isAlpha then
    ([], .tagName { closing := true, tag := { name := String.singleton c.toLower } })
  else if c == '>' then ([.slip], .data)
  else oddCommentStep "" c

/-- A step after an angle bracket in markup. -/
def tagOpenStep (c : Char) : Step :=
  if c == '!' then ([], .declaration [])
  else if c == '/' then ([], .endTagOpen)
  else if c == '?' then oddCommentStep "" c
  else if c.isAlpha then ([], .tagName { tag := { name := String.singleton c.toLower } })
  else Step.after [.character '<'] (textStep .data c)

/-! ## Text with a single end tag -/

/-- A step after an angle bracket in text with a single end tag. -/
def textOpenStep (mode : TextMode) (c : Char) : Step :=
  match mode with
  | .script close .plain =>
    if c == '/' then ([], .textEndOpen mode)
    else if c == '!' then (characters ['<', '!'], .scriptMark close)
    else Step.after [.character '<'] (textStep mode c)
  | .script close (.escaped _) =>
    if c == '/' then ([], .textEndOpen mode)
    else if c.isAlpha then (characters ['<', c], .scriptDoubling close [c.toLower])
    else Step.after [.character '<'] (textStep mode c)
  | .script close (.doubled _) =>
    if c == '/' then ([.character c], .scriptUndoubling close [])
    else textStep mode c
  | _ =>
    if c == '/' then ([], .textEndOpen mode)
    else Step.after [.character '<'] (textStep mode c)

/-- A step after the slash of what may be the end tag. -/
def textEndOpenStep (mode : TextMode) (c : Char) : Step :=
  if c.isAlpha then ([], .textEndName mode [c])
  else Step.after (characters ['<', '/']) (textStep mode c)

/-- A step in the name of what may be the end tag. -/
def textEndNameStep (mode : TextMode) (seen : List Char) (c : Char) : Step :=
  let name := String.ofList (seen.map Char.toLower)
  let d : Draft := { closing := true, tag := { name } }
  if name == mode.close && isSpace c then ([], .beforeAttribute d)
  else if name == mode.close && c == '/' then ([], .selfClosing d)
  else if name == mode.close && c == '>' then ([d.token], .data)
  else if c.isAlpha then ([], .textEndName mode (seen ++ [c]))
  else Step.after (characters ('<' :: '/' :: seen)) (textStep mode c)

/-- A step after the mark that may hide a script. -/
def scriptMarkStep (close : String) (c : Char) : Step :=
  if c == '-' then ([.character c], .scriptMarkDash close)
  else textStep (.script close .plain) c

/-- A step after the first dash of what may hide a script. -/
def scriptMarkDashStep (close : String) (c : Char) : Step :=
  if c == '-' then ([.character c], .text (.script close (.escaped 2)))
  else textStep (.script close .plain) c

/-- A step in a name within a hidden script; `onName` says where the name `script` leads, and
`otherwise` where any other does. -/
def scriptNameStep (close : String) (seen : List Char) (stay : List Char → State)
    (onName otherwise : ScriptStage) (c : Char) : Step :=
  if isSpace c || c == '/' || c == '>' then
    let stage := if seen == "script".toList then onName else otherwise
    ([.character c], .text (.script close stage))
  else if c.isAlpha then ([.character c], stay (seen ++ [c.toLower]))
  else textStep (.script close otherwise) c

/-! ## Comments and declarations -/

/-- What a stage of a comment holds back. -/
def CommentStage.held : CommentStage → String
  | start | inside => ""
  | startDash | dash => "-"
  | close => "--"
  | bang => "--!"

/-- A step in a comment. -/
def commentStep (stage : CommentStage) (text : String) (c : Char) : Step :=
  let on : Step := ([], .comment .inside ((text ++ stage.held).push (orReplacement c)))
  match stage with
  | .start =>
    if c == '-' then ([], .comment .startDash text)
    else if c == '>' then ([.comment text], .data)
    else on
  | .startDash =>
    if c == '-' then ([], .comment .close text)
    else if c == '>' then ([.comment text], .data)
    else on
  | .inside => if c == '-' then ([], .comment .dash text) else on
  | .dash => if c == '-' then ([], .comment .close text) else on
  | .close =>
    if c == '>' then ([.comment text], .data)
    else if c == '!' then ([], .comment .bang text)
    else if c == '-' then ([], .comment .close (text.push '-'))
    else on
  | .bang =>
    if c == '-' then ([], .comment .dash (text ++ "--!"))
    else if c == '>' then ([.comment text], .data)
    else on

/-- A step in what is left of a broken document type. -/
def ignoredStep (d : Doctype) (c : Char) : Step :=
  if c == '>' then ([.doctype d], .data) else ([], .doctype .ignored d)

/-- The document type with an identifier started. -/
def Doctype.startId (d : Doctype) : IdKind → Doctype
  | .publicId => { d with publicId := some "" }
  | .systemId => { d with systemId := some "" }

/-- The document type with a character added to an identifier. -/
def Doctype.pushId (d : Doctype) (kind : IdKind) (c : Char) : Doctype :=
  match kind with
  | .publicId => { d with publicId := some ((d.publicId.getD "").push c) }
  | .systemId => { d with systemId := some ((d.systemId.getD "").push c) }

/-- A step where an identifier may start; `stay` is the state that blanks lead to. -/
def idStep (stay : DoctypeStage) (kind : IdKind) (endsWell : Bool) (d : Doctype) (c : Char) :
    Step :=
  if isSpace c then ([], .doctype stay d)
  else if c == '"' || c == '\'' then ([], .doctype (.quoted kind c) (d.startId kind))
  else if c == '>' then ([.doctype { d with broken := d.broken || !endsWell }], .data)
  else ([], .doctype .ignored { d with broken := true })

/-- A step in a document type. -/
def doctypeStep (stage : DoctypeStage) (d : Doctype) (c : Char) : Step :=
  match stage with
  | .beforeName =>
    if isSpace c then ([], .doctype .beforeName d)
    else if c == '>' then ([.doctype { d with broken := true }], .data)
    else ([], .doctype .name { d with name := some (String.singleton (orReplacement c.toLower)) })
  | .name =>
    if isSpace c then ([], .doctype (.afterName []) d)
    else if c == '>' then ([.doctype d], .data)
    else
      let name := (d.name.getD "").push (orReplacement c.toLower)
      ([], .doctype .name { d with name := some name })
  | .afterName seen =>
    let longer := seen ++ [c.toLower]
    if seen.isEmpty && isSpace c then ([], .doctype stage d)
    else if seen.isEmpty && c == '>' then ([.doctype d], .data)
    else if longer == "public".toList then ([], .doctype (.afterKeyword .publicId) d)
    else if longer == "system".toList then ([], .doctype (.afterKeyword .systemId) d)
    else if longer.isPrefixOf "public".toList || longer.isPrefixOf "system".toList then
      ([], .doctype (.afterName longer) d)
    else ignoredStep { d with broken := true } c
  | .afterKeyword kind => idStep stage kind false d c
  | .quoted kind quote =>
    if c == quote then ([], .doctype (.afterId kind) d)
    else if c == '>' then ([.doctype { d with broken := true }], .data)
    else ([], .doctype stage (d.pushId kind (orReplacement c)))
  | .afterId .publicId => idStep (if isSpace c then .between else stage) .systemId true d c
  | .afterId .systemId =>
    if isSpace c then ([], .doctype stage d) else ignoredStep d c
  | .between => idStep stage .systemId true d c
  | .ignored => ignoredStep d c

/-- A step after an exclamation mark. A section of characters is recognized only where it is allowed,
which is not in HTML itself. -/
def declarationStep (sections : Bool) (seen : List Char) (c : Char) : Step :=
  let longer := seen ++ [c]
  let folded := longer.map Char.toLower
  let sectionMark := "[CDATA[".toList
  if longer == ['-', '-'] then ([], .comment .start "")
  else if folded == "doctype".toList then ([], .doctype .beforeName {})
  else if sections && longer == sectionMark then ([], .section 0)
  else if longer == ['-'] || folded.isPrefixOf "doctype".toList ||
      (sections && longer.isPrefixOf sectionMark) then
    ([], .declaration longer)
  else oddCommentStep (String.ofList seen) c

/-- A step in a section of characters. -/
def sectionStep (brackets : Nat) (c : Char) : Step :=
  if c == ']' then
    if brackets == 2 then ([.character ']'], .section 2) else ([], .section (brackets + 1))
  else if c == '>' && brackets == 2 then ([], .data)
  else (characters (List.replicate brackets ']' ++ [c]), .section 0)

/-! ## Character references -/

namespace Context

/-- The state that goes on where a reference stood. -/
def state : Context → State
  | text mode => .text mode
  | value v => .value v

/-- Puts characters where a reference stood, as they are. -/
def put (context : Context) (cs : List Char) : List Token × Context :=
  match context with
  | text mode => (characters cs, text mode)
  | value v => ([], value { v with value := v.value ++ String.ofList cs })

/-- Puts characters where a reference stood, and goes on. -/
def finish (context : Context) (cs : List Char) : Step :=
  let (tokens, context) := context.put cs
  (tokens, context.state)

/-- Puts characters where a reference stood, and takes a step with the next one. -/
def finishBefore (context : Context) (cs : List Char) (c : Char) : Step :=
  let (tokens, context) := context.put cs
  Step.after tokens <|
    match context with
    | text mode => textStep mode c
    | value v => valueStep v c

/-- Whether a reference stands in an attribute value. -/
def inValue : Context → Bool
  | text _ => false
  | value _ => true

end Context

/-- The characters for the code points 128 to 159, where an older encoding had some. -/
def oldEncoding : List (Nat × Nat) := [
  (0x80, 0x20AC), (0x82, 0x201A), (0x83, 0x0192), (0x84, 0x201E), (0x85, 0x2026), (0x86, 0x2020),
  (0x87, 0x2021), (0x88, 0x02C6), (0x89, 0x2030), (0x8A, 0x0160), (0x8B, 0x2039), (0x8C, 0x0152),
  (0x8E, 0x017D), (0x91, 0x2018), (0x92, 0x2019), (0x93, 0x201C), (0x94, 0x201D), (0x95, 0x2022),
  (0x96, 0x2013), (0x97, 0x2014), (0x98, 0x02DC), (0x99, 0x2122), (0x9A, 0x0161), (0x9B, 0x203A),
  (0x9C, 0x0153), (0x9E, 0x017E), (0x9F, 0x0178)]

/-- The character that a number refers to. -/
def numbered (n : Nat) : Char :=
  if n == 0 || 0x10FFFF < n || (0xD800 ≤ n && n ≤ 0xDFFF) then replacement
  else Char.ofNat ((oldEncoding.lookup n).getD n)

/-- The value of a digit in base sixteen. -/
def digitValue (c : Char) : Nat :=
  if c.isDigit then c.toNat - '0'.toNat else c.toLower.toNat - 'a'.toNat + 10

/-- Whether a character is a digit in base sixteen. -/
def isHexDigit (c : Char) : Bool :=
  c.isDigit || ('a' ≤ c && c ≤ 'f') || ('A' ≤ c && c ≤ 'F')

/-- The characters of a reference that turned out to be none. -/
def ReferencePart.source : ReferencePart → List Char
  | start => ['&']
  | hash => ['&', '#']
  | hex mark => ['&', '#', mark]
  | decimal _ | hexadecimal _ => []
  | name run => '&' :: run

/-- What stands for a name that no semicolon follows: the longest part of it that is known without
one, and the rest as it is. In an attribute value, where something that looks like more of the name or
an equals sign follows the known part, all is left as it is. -/
def bareName (inValue : Bool) (run : List Char) (next : Option Char) : List Char :=
  match bareReference? run run.length with
  | none => '&' :: run
  | some (cs, rest) =>
    let follows := rest.head? <|> next
    if inValue && follows.any fun c => c == '=' || c.isAlphanum then '&' :: run else cs ++ rest

/-- A step in a character reference. A number that ends without a semicolon is malformed. -/
def referenceStep (context : Context) (part : ReferencePart) (c : Char) : Step :=
  match part with
  | .start =>
    if c.isAlphanum then ([], .reference context (.name [c]))
    else if c == '#' then ([], .reference context .hash)
    else context.finishBefore part.source c
  | .hash =>
    if c == 'x' || c == 'X' then ([], .reference context (.hex c))
    else if c.isDigit then ([], .reference context (.decimal (digitValue c)))
    else context.finishBefore part.source c
  | .hex _ =>
    if isHexDigit c then ([], .reference context (.hexadecimal (digitValue c)))
    else context.finishBefore part.source c
  | .decimal n =>
    if c.isDigit then ([], .reference context (.decimal (n * 10 + digitValue c)))
    else if c == ';' then context.finish [numbered n]
    else Step.after [.slip] (context.finishBefore [numbered n] c)
  | .hexadecimal n =>
    if isHexDigit c then ([], .reference context (.hexadecimal (n * 16 + digitValue c)))
    else if c == ';' then context.finish [numbered n]
    else Step.after [.slip] (context.finishBefore [numbered n] c)
  | .name run =>
    if c.isAlphanum then ([], .reference context (.name (run ++ [c])))
    else
      match if c == ';' then reference? (String.ofList run) else none with
      | some cs => context.finish cs
      | none => context.finishBefore (bareName context.inValue run (some c)) c

/-- The characters that a reference leaves at the end of the document. -/
def ReferencePart.atEnd (inValue : Bool) : ReferencePart → List Char
  | decimal n | hexadecimal n => [numbered n]
  | name run => bareName inValue run none
  | part => part.source

/-! ## The machine -/

/-- A step of the machine; `sections` tells whether sections of characters are allowed. -/
def State.step (sections : Bool) (s : State) (c : Char) : Step :=
  match s with
  | .text mode => textStep mode c
  | .reference context part => referenceStep context part c
  | .tagOpen => tagOpenStep c
  | .endTagOpen => endTagOpenStep c
  | .tagName d => tagNameStep d c
  | .beforeAttribute d => beforeAttributeStep d c
  | .attributeName d name => attributeNameStep d name c
  | .afterAttributeName d name => afterAttributeNameStep d name c
  | .beforeValue d name => beforeValueStep d name c
  | .value v => valueStep v c
  | .afterValue d => afterValueStep d c
  | .selfClosing d => selfClosingStep d c
  | .textOpen mode => textOpenStep mode c
  | .textEndOpen mode => textEndOpenStep mode c
  | .textEndName mode seen => textEndNameStep mode seen c
  | .scriptMark close => scriptMarkStep close c
  | .scriptMarkDash close => scriptMarkDashStep close c
  | .scriptDoubling close seen =>
    scriptNameStep close seen (.scriptDoubling close) (.doubled 0) (.escaped 0) c
  | .scriptUndoubling close seen =>
    scriptNameStep close seen (.scriptUndoubling close) (.escaped 0) (.doubled 0) c
  | .declaration seen => declarationStep sections seen c
  | .comment stage body => commentStep stage body c
  | .oddComment body => oddCommentStep body c
  | .doctype stage d => doctypeStep stage d c
  | .section brackets => sectionStep brackets c

/-- The tokens that a state leaves at the end of the document. A tag that is not finished leaves
nothing. -/
def State.atEnd : State → List Token
  | .reference (.text _) part => characters (part.atEnd false)
  | .tagOpen => characters ['<']
  | .endTagOpen => characters ['<', '/']
  | .textOpen (.script _ (.doubled _)) => []
  | .textOpen _ => characters ['<']
  | .textEndOpen _ => characters ['<', '/']
  | .textEndName _ seen => characters ('<' :: '/' :: seen)
  | .declaration seen => [.comment (String.ofList seen)]
  | .comment _ body | .oddComment body => [.comment body]
  | .doctype .ignored d => [.doctype d]
  | .doctype _ d => [.doctype { d with broken := true }]
  | .section brackets => characters (List.replicate brackets ']')
  | _ => []

end ComponentTags.Html
