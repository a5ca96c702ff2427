import ComponentTags.Proofs.Json.Scalars
import Mathlib.Data.List.Forall2

/-!
# Values are read back as deep as the levels reach

A text can be followed by its nesting alone: a reader that `Needs` a number of levels for a text reads it
with any more of them and fails with no more than that. The levels that two readers need one after the
other are the greater of the two, and brackets need one more than what they hold (`Needs.bind`,
`Needs.bracketed`), which is how the depth of a value is counted. So a value that was written is read back
where it nests less deep than there are levels, and is refused where it does not (`takesAt_valueAt`).
-/

namespace ComponentTags.Json

/-! ## The text of a value -/

/-- The numbers of a value are naturals that fit into 64 bits. -/
inductive Value.IsPlain : Value → Prop where
  | null : IsPlain .null
  | bool (b : Bool) : IsPlain (.bool b)
  | natural {n : Nat} (hn : n < UInt64.size) : IsPlain (.natural n)
  | string (s : String) : IsPlain (.string s)
  | array {items : List Value} (hitems : ∀ v ∈ items, v.IsPlain) : IsPlain (.array items)
  | object {entries : List (String × Value)} (hentries : ∀ e ∈ entries, e.2.IsPlain) :
    IsPlain (.object entries)

theorem writeString_append (s : String) (after more : List Char) :
    writeString s (after ++ more) = writeString s after ++ more := by
  unfold writeString
  rw [List.cons_append, List.append_assoc, List.cons_append]

mutual

theorem Value.writeBefore_append : ∀ (v : Value) (after more : List Char),
    v.writeBefore (after ++ more) = v.writeBefore after ++ more
  | .null, _, _ | .bool true, _, _ | .bool false, _, _ | .number _, _, _ =>
    (List.append_assoc _ _ _).symm
  | .string s, after, more => writeString_append s after more
  | .array items, after, more => by
    show '[' :: writeItems items ((']' :: after) ++ more) = _
    rw [writeItems_append]
    rfl
  | .object entries, after, more => by
    show '\x7b' :: writeEntries entries (('\x7d' :: after) ++ more) = _
    rw [writeEntries_append]
    rfl

theorem writeItems_append : ∀ (items : List Value) (after more : List Char),
    writeItems items (after ++ more) = writeItems items after ++ more
  | [], after, more => rfl
  | [v], after, more => by
    simp only [writeItems, Value.writeBefore_append v]
  | v :: w :: rest, after, more => by
    simp only [writeItems, writeItems_append (w :: rest), ← List.cons_append,
      Value.writeBefore_append v]

theorem writeEntries_append : ∀ (entries : List (String × Value)) (after more : List Char),
    writeEntries entries (after ++ more) = writeEntries entries after ++ more
  | [], after, more => rfl
  | [(key, v)], after, more => by
    simp only [writeEntries, Value.writeBefore_append v, ← List.cons_append, writeString_append]
  | (key, v) :: next :: rest, after, more => by
    simp only [writeEntries, writeEntries_append (next :: rest), ← List.cons_append,
      Value.writeBefore_append v, writeString_append]

end

theorem Value.writeBefore_natural (n : Nat) (after : List Char) :
    (Value.natural n).writeBefore after = Nat.toDigits 10 n ++ after := by
  show (toString n).toList ++ after = _
  rw [Nat.toString_eq_ofList_toDigits, String.toList_ofList]

/-- A value is written before whatever follows. -/
theorem Value.writeBefore_eq (v : Value) (after : List Char) :
    v.writeBefore after = v.write ++ after := by
  rw [Value.write, ← v.writeBefore_append, List.nil_append]

/-- A value is written with a character at its head that is not taken for a blank or a closing bracket. -/
theorem Value.IsPlain.exists_write_eq {v : Value} (h : v.IsPlain) :
    ∃ c text, v.write = c :: text ∧ Scan.isGap c = false ∧ c ≠ ']' := by
  cases h with
  | null => exact ⟨'n', _, rfl, by decide, by decide⟩
  | bool b => cases b with
    | true => exact ⟨'t', _, rfl, by decide, by decide⟩
    | false => exact ⟨'f', _, rfl, by decide, by decide⟩
  | @natural n hn =>
    obtain ⟨c, cs, hcs, hc⟩ := Scan.exists_toDigits_eq n
    obtain ⟨hgap, hmarks⟩ := Scan.ne_of_isDigit hc
    refine ⟨c, cs ++ [], ?_, hgap, ?_⟩
    · rw [Value.write, Value.writeBefore_natural, hcs, List.cons_append]
    · rintro rfl
      exact hmarks (by decide)
  | string s => exact ⟨'"', _, rfl, by decide, by decide⟩
  | array hitems => exact ⟨'[', _, rfl, by decide, by decide⟩
  | object hentries => exact ⟨'\x7b', _, rfl, by decide, by decide⟩

/-- Items that follow others, each with a comma before it. -/
def moreItems : List Value → List Char → List Char
  | [], after => after
  | v :: rest, after => ',' :: v.writeBefore (moreItems rest after)

theorem writeItems_cons (v : Value) (rest : List Value) (after : List Char) :
    writeItems (v :: rest) after = v.writeBefore (moreItems rest after) := by
  induction rest generalizing v with
  | nil => rw [writeItems, moreItems]
  | cons w rest ih => rw [writeItems, ih, moreItems]

/-- Entries that follow others, each with a comma before it. -/
def moreEntries : List (String × Value) → List Char → List Char
  | [], after => after
  | (key, v) :: rest, after =>
    ',' :: writeString key (':' :: v.writeBefore (moreEntries rest after))

theorem writeEntries_cons (key : String) (v : Value) (rest : List (String × Value))
    (after : List Char) : writeEntries ((key, v) :: rest) after =
      writeString key (':' :: v.writeBefore (moreEntries rest after)) := by
  induction rest generalizing key v with
  | nil => rw [writeEntries, moreEntries]
  | cons next rest ih =>
    obtain ⟨key', v'⟩ := next
    rw [writeEntries, ih, moreEntries]

/-! Readers are bounded by the length of the text, so a list must not be longer than its text. -/

theorem length_le_moreItems (items : List Value) (after : List Char) :
    items.length ≤ (moreItems items after).length := by
  induction items with
  | nil => exact Nat.zero_le _
  | cons v rest ih =>
    rw [moreItems, v.writeBefore_eq, List.length_cons, List.length_cons, List.length_append]
    omega

theorem length_le_writeItems {items : List Value} (h : ∀ v ∈ items, v.IsPlain) (after : List Char) :
    items.length ≤ (writeItems items after).length := by
  cases items with
  | nil => exact Nat.zero_le _
  | cons v rest =>
    have hrest := length_le_moreItems rest after
    -- The first item has no comma before it, but some character of its own.
    obtain ⟨c, text, hwrite, -, -⟩ := (h v List.mem_cons_self).exists_write_eq
    rw [writeItems_cons, v.writeBefore_eq, hwrite, List.length_append, List.length_cons,
      List.length_cons]
    omega

theorem length_le_moreEntries (entries : List (String × Value)) (after : List Char) :
    entries.length ≤ (moreEntries entries after).length := by
  induction entries with
  | nil => exact Nat.zero_le _
  | cons entry rest ih =>
    obtain ⟨key, v⟩ := entry
    rw [moreEntries, writeString, v.writeBefore_eq]
    simp only [List.length_cons, List.length_append]
    omega

theorem length_le_writeEntries (entries : List (String × Value)) (after : List Char) :
    entries.length ≤ (writeEntries entries after).length := by
  cases entries with
  | nil => exact Nat.zero_le _
  | cons entry rest =>
    have hrest := length_le_moreEntries rest after
    obtain ⟨key, v⟩ := entry
    rw [writeEntries_cons, writeString, v.writeBefore_eq]
    simp only [List.length_cons, List.length_append]
    omega

/-! ## Depths -/

theorem depthOfItems_le {bound : Nat} {items : List Value} (h : ∀ v ∈ items, v.depth ≤ bound) :
    depthOfItems items ≤ bound := by
  induction items with
  | nil => exact Nat.zero_le bound
  | cons v items ih =>
    obtain ⟨hv, hitems⟩ := List.forall_mem_cons.mp h
    exact Nat.max_le.mpr ⟨hv, ih hitems⟩

theorem depthOfEntries_le {bound : Nat} {entries : List (String × Value)}
    (h : ∀ e ∈ entries, e.2.depth ≤ bound) : depthOfEntries entries ≤ bound := by
  induction entries with
  | nil => exact Nat.zero_le bound
  | cons e entries ih =>
    obtain ⟨he, hentries⟩ := List.forall_mem_cons.mp h
    exact Nat.max_le.mpr ⟨he, ih hentries⟩

/-! ## Levels -/

namespace Scan

variable {α β : Type}

/-- For this text the reader needs more than so many levels: with more it makes `a` of the start of the
text and leaves the rest of it, and without it fails. -/
structure Needs (level : Nat) (x : Scan α) (depth : Nat) (text : List Char) (a : α)
    (rest : List Char) : Prop where
  reads : level < depth → Reads x depth text a rest
  refuses : depth ≤ level → Refuses x depth text

variable {x : Scan α} {f : α → Scan β} {depth level level' : Nat} {text rest more : List Char} {a : α}
  {b : β}

theorem Reads.needs (hdepth : 0 < depth) (hx : Reads x depth text a rest) :
    Needs 0 x depth text a rest where
  reads _ := hx
  refuses h := absurd h (Nat.not_le.mpr hdepth)

theorem Needs.bind (hx : Needs level x depth text a rest)
    (hf : Needs level' (f a) depth rest b more) :
    Needs (max level level') (x >>= f) depth text b more where
  reads h := (hx.reads (by omega)).bind (hf.reads (by omega))
  refuses h := by
    -- Either the first reader fails, or it leaves the failure to the second.
    by_cases hlevel : depth ≤ level
    · exact (hx.refuses hlevel).bind
    · exact (hx.reads (Nat.not_le.mp hlevel)).bind_refuses (hf.refuses (by omega))

theorem Reads.bind_needs (hx : Reads x depth text a rest)
    (hf : Needs level (f a) depth rest b more) : Needs level (x >>= f) depth text b more where
  reads h := hx.bind (hf.reads h)
  refuses h := hx.bind_refuses (hf.refuses h)

theorem Needs.bind_reads (hx : Needs level x depth text a rest) (hf : Reads (f a) depth rest b more) :
    Needs level (x >>= f) depth text b more where
  reads h := (hx.reads h).bind hf
  refuses h := (hx.refuses h).bind

theorem Needs.map {g : α → β} (hx : Needs level x depth text a rest) :
    Needs level (g <$> x) depth text (g a) rest where
  reads h := (hx.reads h).map
  refuses h := (hx.refuses h).map

theorem Needs.located (hx : Needs level x depth text a rest) :
    Needs level (located x) depth text a rest where
  reads h := (hx.reads h).located
  refuses h := (hx.refuses h).located

/-- Brackets need one level more than what is between them. -/
theorem Needs.bracketed {close : Scan Unit} {bracket : Char}
    (hx : 1 < depth → Needs level x (depth - 1) text a rest) (hclose : Reads close depth rest () more) :
    Needs (level + 1) (bracketed close x) depth (bracket :: text) a more where
  reads h := ((hx (by omega)).reads (by omega)).bracketed (by omega) hclose
  refuses h := by
    by_cases hdepth : depth ≤ 1
    · exact refuses_bracketed hdepth
    · exact ((hx (Nat.not_le.mp hdepth)).refuses (by omega)).bracketed

/-- At this depth the reader makes `a` of the value as it is written, with as many levels as it nests
deep. -/
def TakesAt (depth : Nat) (x : Scan α) (v : Value) (a : α) : Prop :=
  ∀ after, Stops after → Needs v.depth x depth (v.writeBefore after) a after

theorem TakesAt.map {v : Value} {g : α → β} (h : TakesAt depth x v a) :
    TakesAt depth (g <$> x) v (g a) :=
  fun after hafter => (h after hafter).map

theorem TakesAt.located {v : Value} (h : TakesAt depth x v a) : TakesAt depth (located x) v a :=
  fun after hafter => (h after hafter).located

/-! ## Arrays -/

theorem stops_nil : Stops [] := by
  intro c hc
  cases hc

theorem stops_cons {c : Char} (hc : c.isDigit = false ∧ c ≠ '.' ∧ c ≠ 'e' ∧ c ≠ 'E')
    (after : List Char) : Stops (c :: after) := by
  intro d hd
  cases hd
  exact hc

/-- Items of which the first has a comma before it, unless it is the first of all. -/
def itemsFrom (first : Bool) (items : List Value) (after : List Char) : List Char :=
  if first then writeItems items after else moreItems items after

theorem stops_moreItems (vs : List Value) (after : List Char) :
    Stops (moreItems vs (']' :: after)) := by
  cases vs with
  | nil => exact stops_cons (by decide) after
  | cons v rest => exact stops_cons (by decide) _

theorem reads_hasItem_nil (first : Bool) (after : List Char) :
    Reads (hasItem first) depth (itemsFrom first [] (']' :: after)) false (']' :: after) := by
  cases first with
  | true => exact reads_hasItem_close
  | false => exact reads_hasItem_close

theorem reads_hasItem_cons {v : Value} (hv : v.IsPlain) (vs : List Value) (first : Bool)
    (after : List Char) :
    Reads (hasItem first) depth (itemsFrom first (v :: vs) after) true
      (v.writeBefore (moreItems vs after)) := by
  obtain ⟨c, text, hwrite, hgap, hclose⟩ := hv.exists_write_eq
  have hhead : v.writeBefore (moreItems vs after) = c :: (text ++ moreItems vs after) := by
    rw [v.writeBefore_eq, hwrite, List.cons_append]
  cases first with
  | true =>
    show Reads _ _ (writeItems (v :: vs) after) _ _
    rw [writeItems_cons, hhead]
    exact reads_hasItem_first hgap hclose
  | false =>
    show Reads _ _ (',' :: v.writeBefore (moreItems vs after)) _ _
    rw [hhead]
    exact reads_hasItem_next hgap hclose

theorem needs_items {item : Scan α} {vs : List Value} {as : List α} (hdepth : 0 < depth)
    (hplain : ∀ v ∈ vs, v.IsPlain) (h : List.Forall₂ (TakesAt depth item) vs as) (after : List Char) :
    ∀ (fuel : Nat) (first : Bool) (before : List α), vs.length < fuel →
      Needs (depthOfItems vs) (items item fuel first before) depth
        (itemsFrom first vs (']' :: after)) (before.reverse ++ as) (']' :: after) := by
  -- An array nests as deep as the deepest of its items, and so do the levels that they need in turn.
  induction h with
  | nil =>
    intro fuel first before hfuel
    obtain _ | fuel := fuel
    · simp at hfuel
    rw [List.append_nil]
    exact ((reads_hasItem_nil first after).bind (reads_pure before.reverse)).needs hdepth
  | @cons v a vs as hv hvs ih =>
    intro fuel first before hfuel
    obtain _ | fuel := fuel
    · simp at hfuel
    have hrest := ih (fun w hw => hplain w (List.mem_cons_of_mem v hw)) fuel false (a :: before)
      (Nat.lt_of_succ_lt_succ hfuel)
    rw [List.reverse_cons, List.append_assoc, List.singleton_append] at hrest
    exact (reads_hasItem_cons (hplain v List.mem_cons_self) vs first _).bind_needs
      ((hv _ (stops_moreItems vs after)).bind hrest)

/-- What is between the brackets of an array. -/
theorem takesAt_items {item : Scan α} {vs : List Value} {as : List α} (hplain : ∀ v ∈ vs, v.IsPlain)
    (h : 1 < depth → List.Forall₂ (TakesAt (depth - 1) item) vs as) :
    TakesAt depth (bracketed closeList do items item (← bound) true []) (.array vs) as := by
  intro after _
  refine Needs.bracketed (fun hdepth => reads_bound.bind_needs ?_) reads_closeList
  refine needs_items (by omega) hplain (h hdepth) after _ true [] ?_
  have hlength := length_le_writeItems hplain (']' :: after)
  omega

/-! ## Objects -/

/-- Entries of which the first has a comma before it, unless it is the first of all. -/
def entriesFrom (first : Bool) (entries : List (String × Value)) (after : List Char) : List Char :=
  if first then writeEntries entries after else moreEntries entries after

theorem stops_moreEntries (es : List (String × Value)) (after : List Char) :
    Stops (moreEntries es ('\x7d' :: after)) := by
  cases es with
  | nil => exact stops_cons (by decide) after
  | cons e rest => exact stops_cons (by decide) _

theorem reads_hasEntry_nil (first : Bool) (after : List Char) :
    Reads (hasEntry first) depth (entriesFrom first [] ('\x7d' :: after)) false
      ('\x7d' :: after) := by
  cases first with
  | true => exact reads_hasEntry_close
  | false => exact reads_hasEntry_close

theorem reads_hasEntry_cons (key : String) (v : Value) (es : List (String × Value)) (first : Bool)
    (after : List Char) :
    Reads (hasEntry first) depth (entriesFrom first ((key, v) :: es) after) true
      (writeString key (':' :: v.writeBefore (moreEntries es after))) := by
  cases first with
  | true =>
    show Reads _ _ (writeEntries ((key, v) :: es) after) _ _
    rw [writeEntries_cons]
    exact reads_hasEntry_first
  | false => exact reads_hasEntry_next

/-- What is between the brackets of an object is read up to the closing one. -/
theorem takesAt_object {inside : Scan α} {es : List (String × Value)}
    (h : 1 < depth → ∀ after, Needs (depthOfEntries es) inside (depth - 1)
      (writeEntries es ('\x7d' :: after)) a ('\x7d' :: after)) :
    TakesAt depth (bracketed closeObject inside) (.object es) a :=
  fun after _ => Needs.bracketed (fun hdepth => h hdepth after) reads_closeObject

theorem needs_entries {value : Scan α} {es : List (String × Value)} {rs : List (String × α)}
    (hdepth : 0 < depth)
    (h : List.Forall₂ (fun e r => e.1 = r.1 ∧ TakesAt depth value e.2 r.2) es rs)
    (after : List Char) :
    ∀ (fuel : Nat) (first : Bool) (before : List (String × α)), es.length < fuel →
      Needs (depthOfEntries es) (entries value fuel first before) depth
        (entriesFrom first es ('\x7d' :: after)) (before.reverse ++ rs) ('\x7d' :: after) := by
  induction h with
  | nil =>
    intro fuel first before hfuel
    obtain _ | fuel := fuel
    · simp at hfuel
    rw [List.append_nil]
    exact ((reads_hasEntry_nil first after).bind (reads_pure before.reverse)).needs hdepth
  | @cons e r es rs he hes ih =>
    intro fuel first before hfuel
    obtain _ | fuel := fuel
    · simp at hfuel
    obtain ⟨key, v⟩ := e
    obtain ⟨key', a⟩ := r
    obtain ⟨rfl, hv⟩ := he
    have hrest := ih fuel false ((key, a) :: before) (Nat.lt_of_succ_lt_succ hfuel)
    rw [List.reverse_cons, List.append_assoc, List.singleton_append] at hrest
    exact (reads_hasEntry_cons key v es first _).bind_needs
      ((reads_quotedString key _).bind_needs (reads_colon.bind_needs
        ((hv _ (stops_moreEntries es after)).bind hrest)))

/-- The entries of a map. -/
theorem takesAt_entries {value : Scan α} {es : List (String × Value)} {rs : List (String × α)}
    (h : 1 < depth →
      List.Forall₂ (fun e r => e.1 = r.1 ∧ TakesAt (depth - 1) value e.2 r.2) es rs) :
    TakesAt depth (bracketed closeObject do entries value (← bound) true []) (.object es) rs := by
  refine takesAt_object fun hdepth after => reads_bound.bind_needs ?_
  refine needs_entries (by omega) (h hdepth) after _ true [] ?_
  have hlength := length_le_writeEntries es ('\x7d' :: after)
  omega

/-! ## Whole values -/

/-- A digit is not the start of any other value. -/
theorem reads_valueAt_natural {n : Nat} (hn : n < UInt64.size) {after : List Char}
    (hafter : Stops after) :
    Reads (valueAt (level + 1)) depth (Nat.toDigits 10 n ++ after) (.natural n) after := by
  obtain ⟨c, cs, hcs, hc⟩ := exists_toDigits_eq n
  obtain ⟨hgap, hmarks⟩ := ne_of_isDigit hc
  have hnumber : Reads (Value.number <$> number) depth (Nat.toDigits 10 n ++ after) (.natural n)
      after := (reads_number hn hafter).map
  simp only [List.mem_cons, List.not_mem_nil, or_false, not_or] at hmarks
  obtain ⟨-, hquote, hlist, -, hobject, hnull, htrue, hfalse⟩ := hmarks
  rw [hcs] at hnumber ⊢
  refine (reads_peekPastGap hgap).bind ?_
  split
  · next h => cases h
  · next h =>
    cases h
    exact absurd rfl hlist
  · next h =>
    cases h
    exact absurd rfl hobject
  · next h =>
    cases h
    simp only [beq_iff_eq, hnull, htrue, hfalse, hquote, hc, Bool.or_true, if_false, if_true]
    exact hnumber

/-- A value that was written is read back, where it nests less deep than there are levels; if it nests
deeper it is refused. -/
theorem takesAt_valueAt {v : Value} (hv : v.IsPlain) (depth : Nat) :
    TakesAt (depth + 1) (valueAt (depth + 1)) v v := by
  -- What is inside a value is read with one level less, so the depth varies along the induction.
  induction hv generalizing depth with
  | null =>
    intro after _
    refine Reads.needs depth.succ_pos ((reads_peekPastGap rfl).bind (reads_null.bind ?_))
    exact reads_pure _
  | bool b =>
    intro after _
    cases b with
    | true =>
      refine Reads.needs depth.succ_pos ((reads_peekPastGap rfl).bind (reads_true.bind ?_))
      exact reads_pure _
    | false =>
      refine Reads.needs depth.succ_pos ((reads_peekPastGap rfl).bind (reads_false.bind ?_))
      exact reads_pure _
  | @natural n hn =>
    intro after hafter
    rw [Value.writeBefore_natural]
    exact (reads_valueAt_natural hn hafter).needs depth.succ_pos
  | string s =>
    intro after _
    exact ((reads_peekPastGap rfl).bind (reads_quotedString s after).map).needs depth.succ_pos
  | @array items hitems ih =>
    intro after hafter
    have hall : 1 < depth + 1 → List.Forall₂ (TakesAt depth (valueAt depth)) items items := by
      intro hlevel
      obtain ⟨level, rfl⟩ := Nat.exists_eq_add_one.mpr (Nat.lt_of_succ_lt_succ hlevel)
      exact List.forall₂_same.mpr fun v hv => ih v hv level
    exact (reads_peekPastGap rfl).bind_needs ((takesAt_items hitems hall).map.located after hafter)
  | @object entries hentries ih =>
    intro after hafter
    have hall : 1 < depth + 1 → List.Forall₂ (fun e r : String × Value =>
        e.1 = r.1 ∧ TakesAt depth (valueAt depth) e.2 r.2) entries entries := by
      intro hlevel
      obtain ⟨level, rfl⟩ := Nat.exists_eq_add_one.mpr (Nat.lt_of_succ_lt_succ hlevel)
      exact List.forall₂_same.mpr fun e he => ⟨rfl, ih e he level⟩
    exact (reads_peekPastGap rfl).bind_needs ((takesAt_entries hall).map.located after hafter)

end Scan

end ComponentTags.Json
