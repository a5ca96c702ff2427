/-!
# Sets of characters

A class of characters is a list of runs of code points. The tables of the other text modules are
values of this type, so membership is decided by one function.
-/

namespace ComponentTags.Text

/-- A set of characters, listed as runs of code points with both ends included. -/
structure CharSet where
  runs : List (Nat × Nat)

/-- Whether the set holds the character. -/
def CharSet.contains (s : CharSet) (c : Char) : Bool :=
  s.runs.any fun run => run.1 ≤ c.toNat && c.toNat ≤ run.2

end ComponentTags.Text
