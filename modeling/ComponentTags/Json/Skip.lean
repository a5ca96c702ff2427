import ComponentTags.Json.Scalar

/-!
# Values nobody reads

The value of an unknown key is gone past without being kept. It may nest to any depth: the open
brackets are a list, not levels of the reader.
-/

namespace ComponentTags.Json.Scan

/-- An open bracket. -/
inductive Frame where
  | list
  | object
deriving DecidableEq, Repr

namespace Frame

/-- The character that closes the bracket. -/
def close : Frame → Char
  | list => ']'
  | object => '\x7d'

/-- The text ends within the bracket. -/
def unfinished : Frame → Cause
  | list => .listUnfinished
  | object => .objectUnfinished

/-- Neither a comma nor the closing bracket follows an item. -/
def commaExpected : Frame → Cause
  | list => .listCommaExpected
  | object => .objectCommaExpected

end Frame

/-- What comes next while values are skipped. -/
inductive Stage where
  /-- A value. -/
  | value
  /-- The first item of the innermost bracket, or its end. -/
  | opened
  /-- A comma and another item, or the end of the innermost bracket. -/
  | item
deriving DecidableEq, Repr

/-- Goes past a key and its colon, if the innermost bracket is an object. -/
def skipKey : Frame → Scan Unit
  | .list => return ()
  | .object => do
    match ← peekPastGap with
    | some '"' => skipString
    | some _ => failAhead .keyNotAString
    | none => failAhead .objectUnfinished
    colon

/-- Skips on from a stage, with the open brackets innermost first. -/
def skipFrom : Nat → Stage → List Frame → Scan Unit
  | 0, _, _ => return ()
  | fuel + 1, .value, frames => do
    match ← peekPastGap with
    | none => failAhead .valueUnfinished
    | some '[' =>
      advance
      skipFrom fuel .opened (.list :: frames)
    | some '\x7b' =>
      advance
      skipFrom fuel .opened (.object :: frames)
    | some c =>
      if c == 'n' then word "null".toList
      else if c == 't' then word "true".toList
      else if c == 'f' then word "false".toList
      else if c == '"' then skipString
      else if c == '-' || c.isDigit then skipNumber
      else failAhead .valueExpected
      if frames.isEmpty then return () else skipFrom fuel .item frames
  | _ + 1, _, [] => return ()
  | fuel + 1, stage, frame :: frames => do
    match ← peekPastGap with
    | none => failAhead frame.unfinished
    | some c =>
      if c == frame.close then
        advance
        if frames.isEmpty then return () else skipFrom fuel .item frames
      else if stage == .opened then
        skipKey frame
        skipFrom fuel .value (frame :: frames)
      else if c == ',' then
        advance
        skipKey frame
        skipFrom fuel .value (frame :: frames)
      else failAhead frame.commaExpected

/-- Goes past a value. -/
def skipValue : Scan Unit := do
  skipFrom (2 * (← bound)) .value []

end ComponentTags.Json.Scan
