import ComponentTags.Text.Blank

/-!
# Self-closing component tags

HTML does not close `<my-widget />`: everything after it would become its content. So before a template
is read, such tags are written out as `<my-widget ></my-widget>`. Only component names are meant, those
with a capital at their head or a hyphen inside; `<br/>` stays as it is.

Nothing but the form of a tag is looked at: it is written out wherever that form occurs.
-/

namespace ComponentTags.SelfClosing

open Text

/-- Whether a character may follow the capital of a component name. -/
def isCapitalNameChar (c : Char) : Bool :=
  c.isAlphanum || c == '.'

/-- Whether a character may come before the hyphen of a component name. -/
def isLowerNameChar (c : Char) : Bool :=
  c.isLower || c.isDigit

/-- Whether a character may follow the hyphen of a component name. -/
def isHyphenatedNameChar (c : Char) : Bool :=
  c.isAlphanum || c == '-'

/-- The component name that a text starts with, and the rest. -/
def name? : List Char → Option (List Char × List Char)
  | [] => none
  | c :: rest =>
    if c.isUpper then
      some (c :: rest.takeWhile isCapitalNameChar, rest.dropWhile isCapitalNameChar)
    else if c.isLower then
      let front := rest.takeWhile isLowerNameChar
      match rest.dropWhile isLowerNameChar with
      | '-' :: back =>
        some (c :: front ++ '-' :: back.takeWhile isHyphenatedNameChar,
          back.dropWhile isHyphenatedNameChar)
      | _ => none
    else none

/-- What follows a slash and an angle bracket, if these come first but for blanks. -/
def close? (cs : List Char) : Option (List Char) :=
  match cs.dropWhile isBlank with
  | '/' :: '>' :: rest => some rest
  | _ => none

/-- The text of a tag up to where it closes itself, and what follows. Within quotes (the quote that is
open is given) nothing closes the tag; outside of them an angle bracket ends the attempt. -/
def attributes? : Option Char → List Char → Option (List Char × List Char)
  | _, [] => none
  | some quote, c :: rest =>
    (attributes? (if c == quote then none else some quote) rest).map fun (text, after) =>
      (c :: text, after)
  | none, c :: rest =>
    match close? (c :: rest) with
    | some after => some ([], after)
    | none =>
      if c == '<' || c == '>' then none
      else
        let quote := if c == '"' || c == '\'' then some c else none
        (attributes? quote rest).map fun (text, after) => (c :: text, after)

/-- A self-closing tag: its name, what stands between the name and the end, and what follows. -/
structure Tag where
  name : List Char
  attributes : List Char
  after : List Char

/-- The self-closing component tag that a text starts with. What stands after the name, if anything,
starts with a blank. -/
def tag? : List Char → Option Tag
  | '<' :: rest => do
    let (name, rest) ← name? rest
    match rest with
    | [] => none
    | c :: more =>
      if isBlank c then
        let (text, after) ← attributes? none more
        return ⟨name, c :: text, after⟩
      else
        let after ← close? rest
        return ⟨name, [], after⟩
  | _ => none

/-- The tag written with an end tag of its own. -/
def Tag.written (t : Tag) : List Char :=
  '<' :: t.name ++ t.attributes ++ ['>', '<', '/'] ++ t.name ++ ['>']

/-- Writes out the self-closing component tags of a text, except for its first characters, of which
so many belong to a tag that has been dealt with. -/
def expandFrom : Nat → List Char → List Char
  | _, [] => []
  | skip + 1, _ :: rest => expandFrom skip rest
  | 0, c :: rest =>
    match tag? (c :: rest) with
    | some t => t.written ++ expandFrom (rest.length - t.after.length) rest
    | none => c :: expandFrom 0 rest

/-- Writes out the self-closing component tags of a text. -/
def expand (s : String) : String :=
  String.ofList (expandFrom 0 s.toList)

end ComponentTags.SelfClosing
