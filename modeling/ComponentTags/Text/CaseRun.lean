/-!
# Runs of case pairs

Alphabets put their capitals and small letters at a fixed distance, or in turn. A run says this of a
stretch of code points, so a case mapping is a short list of runs.
-/

namespace ComponentTags.Text

/-- Every `step`-th code point from `first` to `last`, each as far from its counterpart as `first`
is from `image`. -/
structure CaseRun where
  first : Nat
  last : Nat
  step : Nat
  image : Nat

/-- The counterpart of a code point, if the run holds it. -/
def CaseRun.map? (run : CaseRun) (n : Nat) : Option Nat :=
  if run.first ≤ n && n ≤ run.last && (n - run.first) % run.step == 0 then
    some (run.image + (n - run.first))
  else
    none

/-- The counterpart that some run of the list gives a character, or the character itself. -/
def mapByRuns (runs : List CaseRun) (c : Char) : Char :=
  match runs.findSome? (·.map? c.toNat) with
  | some n => Char.ofNat n
  | none => c

end ComponentTags.Text
