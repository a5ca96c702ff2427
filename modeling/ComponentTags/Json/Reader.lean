import ComponentTags.Json.Kept
import ComponentTags.Json.Skip

/-!
# Reading from a text

The source whose value at hand comes next in a text, and the readings that only a text needs: whole
values, truth values, maps and values that may be null.
-/

namespace ComponentTags.Json.Scan

/-- Refuses the next value for its kind, once enough of it has been read to say what it is. -/
def wrongType {α : Type} (wanted : String) : Scan α := located do
  let found ← match ← peek with
    | some 'n' => do word "null".toList; pure Found.null
    | some 't' => do word "true".toList; pure (Found.bool true)
    | some 'f' => do word "false".toList; pure (Found.bool false)
    | some '"' => Found.string <$> quotedString
    | some '[' => pure Found.sequence
    | some '\x7b' => pure Found.map
    | some c =>
      if c == '-' || c.isDigit then Found.number <$> number else failAhead .valueExpected
    | none => failAhead .valueExpected
  reject (.invalidType found wanted)

/-- A cause from a pure reading, without a place. -/
def ofExcept {α : Type} : Except Cause α → Scan α
  | .ok a => return a
  | .error cause => reject cause

/-! ## Scalars -/

/-- A string, or whatever else is wanted that is written as one. -/
def stringAs (wanted : String) : Scan String := do
  match ← peekPastGap with
  | some '"' => quotedString
  | some _ => wrongType wanted
  | none => failAhead .valueUnfinished

/-- A string. -/
def string : Scan String :=
  stringAs "a string"

/-- A natural of 32 bits. -/
def word32 : Scan UInt32 := do
  match ← peekPastGap with
  | some c =>
    if c == '-' || c.isDigit then located do ofExcept (toWord32 (← number)) else wrongType "u32"
  | none => failAhead .valueUnfinished

/-- A truth value. -/
def bool : Scan Bool := do
  match ← peekPastGap with
  | some 't' =>
    word "true".toList
    return true
  | some 'f' =>
    word "false".toList
    return false
  | some _ => wrongType "a boolean"
  | none => failAhead .valueUnfinished

/-- A value, or none where null stands. -/
def nullable {α : Type} (value : Scan α) : Scan (Option α) := do
  match ← peekPastGap with
  | some 'n' =>
    word "null".toList
    return none
  | _ => some <$> value

/-! ## Lists and maps -/

/-- The items of an array that follow, the earlier ones being given last first. -/
def items {α : Type} (item : Scan α) : Nat → Bool → List α → Scan (List α)
  | 0, _, before => return before.reverse
  | fuel + 1, first, before => do
    if ← hasItem first then items item fuel false ((← item) :: before)
    else return before.reverse

/-- The entries of an object that follow, the earlier ones being given last first. -/
def entries {α : Type} (value : Scan α) :
    Nat → Bool → List (String × α) → Scan (List (String × α))
  | 0, _, before => return before.reverse
  | fuel + 1, first, before => do
    if ← hasEntry first then
      let key ← quotedString
      colon
      entries value fuel false ((key, ← value) :: before)
    else return before.reverse

/-- A list. -/
def list {α : Type} (item : Scan α) : Scan (List α) := do
  match ← peekPastGap with
  | some '[' => located <| bracketed closeList do items item (← bound) true []
  | some _ => wrongType "a sequence"
  | none => failAhead .valueUnfinished

/-- A map, as its entries. -/
def map {α : Type} (value : Scan α) : Scan (List (String × α)) := do
  match ← peekPastGap with
  | some '\x7b' => located <| bracketed closeObject do entries value (← bound) true []
  | some _ => wrongType "a map"
  | none => failAhead .valueUnfinished

/-! ## Whole values -/

/-- A value of any kind, nested less deep than the given number. -/
def valueAt : Nat → Scan Value
  | 0 => failAhead .nestedTooDeep
  | depth + 1 => do
    match ← peekPastGap with
    | none => failAhead .valueUnfinished
    | some '[' =>
      located <| .array <$> bracketed closeList do items (valueAt depth) (← bound) true []
    | some '\x7b' =>
      located <| .object <$> bracketed closeObject do entries (valueAt depth) (← bound) true []
    | some c =>
      if c == 'n' then do
        word "null".toList
        return .null
      else if c == 't' then do
        word "true".toList
        return .bool true
      else if c == 'f' then do
        word "false".toList
        return .bool false
      else if c == '"' then .string <$> quotedString
      else if c == '-' || c.isDigit then .number <$> number
      else failAhead .valueExpected

/-- A value of any kind. -/
def value : Scan Value := do
  valueAt (← read)

/-! ## Records -/

/-- Reads fields from the items of an array that follow. -/
def inTurn {δ : Type} : List (Field Scan δ) → Bool → δ → Scan δ
  | [], _, draft => return draft
  | field :: fields, first, draft => do
    if ← hasItem first then inTurn fields false (← field.read draft) else return draft

/-- Reads fields from the entries of an object that follow. -/
def byKeys {δ : Type} (fields : List (Field Scan δ)) : Nat → Bool → δ → Scan δ
  | 0, _, draft => return draft
  | fuel + 1, first, draft => do
    if ← hasEntry first then
      let key ← quotedString
      match fields.find? (·.key == key) with
      | some field =>
        if field.filled draft then reject (.duplicateField key)
        else
          colon
          byKeys fields fuel false (← field.read draft)
      | none =>
        colon
        skipValue
        byKeys fields fuel false draft
    else return draft

/-- A record. -/
def record {δ α : Type} (layout : Layout Scan δ α) : Scan α := do
  match ← peekPastGap with
  | some '[' =>
    located <| bracketed closeList do
      ofExcept (layout.finishInTurn (← inTurn layout.fields true layout.blank))
  | some '\x7b' =>
    located <| bracketed closeObject do
      ofExcept (layout.finishByKeys (← byKeys layout.fields (← bound) true layout.blank))
  | some _ => wrongType layout.wanted
  | none => failAhead .valueUnfinished

/-! ## Choices -/

/-- The name of one of several kinds. -/
def kindName {β : Type} (variants : List (String × β)) : Scan β := located do
  ofExcept (ofName variants (← stringAs "variant identifier"))

/-- Null, where nothing is wanted. -/
def unit : Scan Unit := do
  match ← peekPastGap with
  | some 'n' => word "null".toList
  | some _ => wrongType "unit"
  | none => failAhead .valueUnfinished

/-- The kind of a choice: a string, or an object with that key and null under it. -/
def kind {α : Type} (choice : Choice α) : Scan (Content α) := do
  match ← peekPastGap with
  | some '"' => kindName choice.variants
  | some '\x7b' =>
    let depth ← read
    if depth ≤ 1 then failAhead .nestedTooDeep
    else
      advance
      let content ← kindName choice.variants
      colon
      unit
      match ← peekPastGap with
      | some '\x7d' =>
        advance
        return content
      | some _ => failHere .valueExpected
      | none => failHere .objectUnfinished
  | some _ => failAhead .valueExpected
  | none => failAhead .valueUnfinished

/-- The content of a kind. Where nothing is wanted, a bracket is opened before it is refused. -/
def content {α : Type} (choice : Choice α) : Content α → Scan α
  | .none label value => do
    let wanted := choice.wantedUnit label
    match ← peekPastGap with
    | some 'n' =>
      word "null".toList
      return value
    | some '[' => located <| bracketed closeList (reject (.invalidType .sequence wanted))
    | some '\x7b' => located <| bracketed closeObject (reject (.invalidType .map wanted))
    | some _ => wrongType wanted
    | none => failAhead .valueUnfinished
  | .string value => do return value (← string)

/-- The key of the next entry under the kind's or the content's key; goes past other entries. -/
def relevantKey {α : Type} (choice : Choice α) : Nat → Bool → Scan (Option String)
  | 0, _ => return none
  | fuel + 1, first => do
    if ← hasEntry first then
      let key ← quotedString
      if key == choice.kindKey || key == choice.contentKey then return some key
      else
        colon
        skipValue
        relevantKey choice fuel false
    else return none

/-- Refuses a further entry under the kind's or the content's key. -/
def noMore {α : Type} (choice : Choice α) : Scan Unit := do
  match ← relevantKey choice (← bound) false with
  | none => return ()
  | some key => reject (.duplicateField key)

/-- A kind with its content, under two keys in either order. -/
def choiceByKeys {α : Type} (c : Choice α) : Scan α := do
  match ← relevantKey c (← bound) true with
  | none => reject (.missingField c.kindKey)
  | some key =>
    colon
    if key == c.kindKey then
      let found ← kind c
      match ← relevantKey c (← bound) false with
      | none => ofExcept (c.withoutContent found)
      | some key =>
        if key == c.kindKey then reject (.duplicateField key)
        else
          colon
          let result ← content c found
          noMore c
          return result
    else
      let kept ← value
      match ← relevantKey c (← bound) false with
      | none => reject (.missingField c.kindKey)
      | some key =>
        if key == c.contentKey then reject (.duplicateField key)
        else
          colon
          let found ← kind c
          let result ← ofExcept (Kept.content c found kept)
          noMore c
          return result

/-- A kind with its content, one after the other. -/
def choiceInTurn {α : Type} (c : Choice α) : Scan α := do
  if ← hasItem true then
    let found ← kind c
    if ← hasItem false then content c found
    else reject (.invalidLength 1 c.wanted)
  else reject (.invalidLength 0 c.wanted)

/-- A kind with its content. -/
def choice {α : Type} (c : Choice α) : Scan α := do
  match ← peekPastGap with
  | some '[' => located <| bracketed closeList (choiceInTurn c)
  | some '\x7b' => located <| bracketed closeObject (choiceByKeys c)
  | some _ => wrongType c.wanted
  | none => failAhead .valueUnfinished

instance : Source Scan where
  string := string
  word32 := word32
  list := list
  record := record
  choice := choice

/-! ## Kinds among the fields -/

/-- A value whose kind is one of its own fields: the kind, and the other fields kept as an object, or
as an array if it is written as one with the kind at its head. -/
def kindWithFields {β : Type} (name kindKey : String) (variants : List (String × β)) :
    Scan (β × Value) := do
  let wanted := "internally tagged enum " ++ name
  match ← peekPastGap with
  | some '[' =>
    located <| bracketed closeList do
      if ← hasItem true then
        let found ← kindName variants
        return (found, .array (← items value (← bound) false []))
      else reject (.missingField kindKey)
  | some '\x7b' =>
    located <| bracketed closeObject do gather kindKey variants (← bound) true none []
  | some _ => wrongType wanted
  | none => failAhead .valueUnfinished
where
  /-- Goes through the entries of an object that follow. -/
  gather (kindKey : String) (variants : List (String × β)) :
      Nat → Bool → Option β → List (String × Value) → Scan (β × Value)
    | 0, _, _, _ => reject (.missingField kindKey)
    | fuel + 1, first, found, before => do
      if ← hasEntry first then
        let key ← quotedString
        if key == kindKey then
          if found.isSome then reject (.duplicateField key)
          else
            colon
            gather kindKey variants fuel false (some (← kindName variants)) before
        else
          colon
          gather kindKey variants fuel false found ((key, ← value) :: before)
      else
        match found with
        | some found => return (found, .object before.reverse)
        | none => reject (.missingField kindKey)

end ComponentTags.Json.Scan
