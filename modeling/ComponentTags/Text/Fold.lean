/-!
# Matching without regard to case

Names from a fixed ASCII vocabulary are matched by simple case folding. Besides the ASCII capitals
only two characters fold to an ASCII letter: the long s and the Kelvin sign.
-/

namespace ComponentTags.Text

/-- Folds the characters that match an ASCII letter to that letter in lower case. -/
def foldChar (c : Char) : Char :=
  if c == '\u017F' then 's' else if c == '\u212A' then 'k' else c.toLower

/-- Whether a text is the given lowercase ASCII word in some casing. -/
def foldsTo (s word : String) : Bool :=
  s.toList.map foldChar == word.toList

/-- Drops a lowercase ASCII word in some casing from the front of a text. -/
def dropFolded? : List Char → List Char → Option (List Char)
  | [], rest => some rest
  | _ :: _, [] => none
  | w :: word, c :: rest => if foldChar c == w then dropFolded? word rest else none

/-- Whether a word occurs in a text. -/
def occursIn (word : List Char) : List Char → Bool
  | [] => word.isEmpty
  | c :: rest => word.isPrefixOf (c :: rest) || occursIn word rest

end ComponentTags.Text
