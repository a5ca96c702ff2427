import ComponentTags.Text.Blank
import ComponentTags.Text.Fold
import ComponentTags.Text.Word

/-!
# Declared names

A component file may give its component a name of its own, as the `name` option in its first script
block. Only that block is looked at; within it the first place that has the form of the option
decides.
-/

namespace ComponentTags.Discovery

open Text

/-- What follows the first occurrence of a character. -/
def after? (mark : Char) : List Char → Option (List Char)
  | [] => none
  | c :: rest => if c == mark then some rest else after? mark rest

/-- What comes before the first occurrence of a lowercase ASCII word in some casing. -/
def beforeFolded? (word : List Char) : List Char → Option (List Char)
  | [] => none
  | c :: rest =>
    if (dropFolded? word (c :: rest)).isSome then some []
    else (beforeFolded? word rest).map (c :: ·)

/-- The body of a script block that starts right here. -/
def scriptAt? (cs : List Char) : Option (List Char) := do
  let rest ← dropFolded? "<script".toList cs
  if rest.head?.any isWord then none
  else beforeFolded? "</script>".toList (← after? '>' rest)

/-- The body of the first script block that is closed. -/
def scriptBody? : List Char → Option (List Char)
  | [] => none
  | c :: rest => scriptAt? (c :: rest) <|> scriptBody? rest

/-- The text between quotes that starts right here, if it is closed and not empty. -/
def quotedText? : List Char → Option (List Char)
  | [] => none
  | quote :: rest =>
    if quote == '"' || quote == '\'' then
      let text := rest.takeWhile (· != quote)
      if text.isEmpty || text.length == rest.length then none else some text
    else none

/-- Drops a word from the front of a text. -/
def dropWord? : List Char → List Char → Option (List Char)
  | [], rest => some rest
  | _ :: _, [] => none
  | w :: word, c :: rest => if c == w then dropWord? word rest else none

/-- The value of a `name` option that starts right here. -/
def nameAt? (cs : List Char) : Option (List Char) := do
  let rest ← dropWord? "name".toList cs
  match rest.dropWhile isBlank with
  | ':' :: value => quotedText? (value.dropWhile isBlank)
  | _ => none

/-- The value of the first `name` option. `inWord` tells whether a word character comes right before:
then no word starts here. -/
def nameOption? (inWord : Bool) : List Char → Option (List Char)
  | [] => none
  | c :: rest =>
    (if inWord then none else nameAt? (c :: rest)) <|> nameOption? (isWord c) rest

/-- The name that a component file declares. -/
def declaredName? (source : String) : Option String := do
  let script ← scriptBody? source.toList
  String.ofList <$> nameOption? false script

end ComponentTags.Discovery
