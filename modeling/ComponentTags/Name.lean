import ComponentTags.Text.Lowercase
import ComponentTags.Text.Uppercase
import ComponentTags.Text.Word

/-!
# Spellings of a name

A component may be registered in one spelling and written in another: `my-widget`, `myWidget` and
`MyWidget`. These functions lead from the hyphenated spelling to the others and back.
-/

namespace ComponentTags.Name

open Text

/-- Drops each hyphen before a word character and uppercases that character. -/
def camelizeChars : List Char → List Char
  | '-' :: c :: rest =>
    if isWord c then upperChar c ++ camelizeChars rest else '-' :: camelizeChars (c :: rest)
  | c :: rest => c :: camelizeChars rest
  | [] => []

/-- The camel-case spelling: `my-widget` becomes `myWidget`. -/
def camelize (s : String) : String :=
  String.ofList (camelizeChars s.toList)

/-- The spelling with a capital at its head: `myWidget` becomes `MyWidget`. -/
def capitalize (s : String) : String :=
  match s.toList with
  | [] => s
  | c :: rest => String.ofList (upperChar c ++ rest)

/-- Puts a hyphen between a character other than a hyphen and an ASCII capital after it, pair by pair
from the left: the capital of one pair is not the first character of the next. -/
def splitPairs : List Char → List Char
  | a :: b :: rest =>
    if a != '-' && b.isUpper then a :: '-' :: b :: splitPairs rest else a :: splitPairs (b :: rest)
  | [a] => [a]
  | [] => []

/-- The hyphenated spelling: `MyWidget` becomes `my-widget`. The capitals of a run are split in two
passes, for each pass skips every other one. -/
def hyphenate (s : String) : String :=
  lowercase (String.ofList (splitPairs (splitPairs s.toList)))

/-- The spelling that a name takes when its casing and its hyphens are lost. -/
def squash (s : String) : String :=
  lowercase (String.ofList (s.toList.filter (· != '-')))

end ComponentTags.Name
