import ComponentTags.Json.Reader

/-!
# What a reader does with a text

A reader is followed along the text that is left, and the place that its cursor has reached is forgotten:
`Reads x depth text a rest` says that with so many levels left `x` makes `a` of the start of `text` and
leaves `rest`, and `Refuses x depth text` that it fails. Both are composed along a program
(`Reads.bind`, `Refuses.bind`, `Reads.bind_refuses`), so nothing outside of this file looks at the
monad that readers run in.

The sections after that give what the readers of punctuation do where no blanks stand between: brackets
(`Reads.bracketed`), commas (`reads_hasItem_next`, `reads_hasEntry_next`), colons and words.
-/

namespace ComponentTags.Json.Scan

variable {α β : Type}

/-! ## Running a reader -/

/-- What a reader gives at a cursor, with so many levels left, and the cursor after it. -/
def runAt (x : Scan α) (depth : Nat) (c : Cursor) : Except Fault α × Cursor :=
  (x depth).run.run c

theorem runAt_bind (x : Scan α) (f : α → Scan β) (depth : Nat) (c : Cursor) :
    (x >>= f).runAt depth c =
      match x.runAt depth c with
      | (.ok a, d) => (f a).runAt depth d
      | (.error fault, d) => (.error fault, d) := by
  unfold runAt
  show (ExceptT.run (x depth >>= fun a => f a depth)).run c = _
  simp only [ExceptT.run_bind, StateT.run_bind]
  rcases StateT.run (x depth).run c with ⟨_ | _, _⟩ <;> rfl

/-- A failure that is kept as a value is none. -/
theorem runAt_attempt (x : Scan α) (depth : Nat) (c : Cursor) :
    (attempt x).runAt depth c = (.ok (x.runAt depth c).1, (x.runAt depth c).2) := rfl

/-- With so many levels left, the reader makes `a` of the start of the text and leaves the rest of it. -/
def Reads (x : Scan α) (depth : Nat) (text : List Char) (a : α) (rest : List Char) : Prop :=
  ∀ c : Cursor, c.rest = text → ∃ d : Cursor, d.rest = rest ∧ x.runAt depth c = (.ok a, d)

/-- With so many levels left, the reader fails on the text. -/
def Refuses (x : Scan α) (depth : Nat) (text : List Char) : Prop :=
  ∀ c : Cursor, c.rest = text → ∃ fault d, x.runAt depth c = (.error fault, d)

variable {x : Scan α} {f : α → Scan β} {depth : Nat} {text rest more : List Char} {a : α} {b : β}

theorem Reads.bind (hx : Reads x depth text a rest) (hf : Reads (f a) depth rest b more) :
    Reads (x >>= f) depth text b more := by
  intro c hc
  obtain ⟨d, hd, hrun⟩ := hx c hc
  obtain ⟨e, he, hrun'⟩ := hf d hd
  refine ⟨e, he, ?_⟩
  rw [runAt_bind, hrun]
  exact hrun'

theorem Refuses.bind (hx : Refuses x depth text) : Refuses (x >>= f) depth text := by
  intro c hc
  obtain ⟨fault, d, hrun⟩ := hx c hc
  refine ⟨fault, d, ?_⟩
  rw [runAt_bind, hrun]

theorem Reads.bind_refuses (hx : Reads x depth text a rest) (hf : Refuses (f a) depth rest) :
    Refuses (x >>= f) depth text := by
  intro c hc
  obtain ⟨d, hd, hrun⟩ := hx c hc
  obtain ⟨fault, e, hrun'⟩ := hf d hd
  refine ⟨fault, e, ?_⟩
  rw [runAt_bind, hrun]
  exact hrun'

theorem reads_pure (a : α) : Reads (pure a) depth text a text :=
  fun c hc => ⟨c, hc, rfl⟩

theorem Reads.map {g : α → β} (hx : Reads x depth text a rest) :
    Reads (g <$> x) depth text (g a) rest := by
  rw [map_eq_pure_bind]
  exact hx.bind (reads_pure _)

theorem Refuses.map {g : α → β} (hx : Refuses x depth text) : Refuses (g <$> x) depth text := by
  rw [map_eq_pure_bind]
  exact hx.bind

theorem reads_read : Reads read depth text depth text :=
  fun c hc => ⟨c, hc, rfl⟩

/-- A whole text is read by a reader, and then by one that is content with the end of it. -/
theorem exists_whole_eq (x : Scan α) : ∃ close : α → Scan α, (∀ a, Reads (close a) 128 [] a []) ∧
    ∀ s, whole x s = ((x >>= close).runAt 128 (Cursor.start s)).1 := by
  -- The second reader is the one that the definition goes on with.
  refine ⟨_, fun a => ?_, fun s => rfl⟩
  rintro ⟨rest, line, column⟩ hrest
  obtain rfl : rest = [] := hrest
  exact ⟨_, rfl, rfl⟩

theorem Reads.whole {s : String} (hx : Reads x 128 s.toList a []) : whole x s = .ok a := by
  obtain ⟨close, hclose, hwhole⟩ := exists_whole_eq x
  obtain ⟨d, -, hrun⟩ := hx.bind (hclose a) (Cursor.start s) rfl
  rw [hwhole, hrun]

theorem Refuses.whole {s : String} (hx : Refuses x 128 s.toList) :
    ∃ fault, whole x s = .error fault := by
  obtain ⟨close, -, hwhole⟩ := exists_whole_eq x
  obtain ⟨fault, d, hrun⟩ := hx.bind (f := close) (Cursor.start s) rfl
  refine ⟨fault, ?_⟩
  rw [hwhole, hrun]

/-! ## Characters -/

theorem reads_peek : Reads peek depth text text.head? text := by
  intro c hc
  refine ⟨c, hc, ?_⟩
  rw [← hc]
  rfl

theorem Cursor.step_rest {c : Cursor} {ch : Char} (hc : c.rest = ch :: text) :
    c.step.rest = text := by
  unfold Cursor.step
  rw [hc]
  split
  · next h => cases h
  · next h =>
    cases h
    rfl
  · next h =>
    cases h
    rfl

theorem reads_advance {c : Char} : Reads advance depth (c :: text) () text :=
  fun cursor hc => ⟨cursor.step, Cursor.step_rest hc, rfl⟩

theorem reads_bound : Reads bound depth text (2 * text.length + 2) text := by
  intro c hc
  refine ⟨c, hc, ?_⟩
  rw [← hc]
  rfl

theorem reads_peekPastGap {c : Char} (hc : isGap c = false) :
    Reads peekPastGap depth (c :: text) (some c) (c :: text) := by
  rintro ⟨-, line, column⟩ rfl
  -- No gap, and so no line break, which would move the cursor to a new line.
  have hne : (c == '\n') = false := by
    rw [Bool.eq_false_iff]
    intro h
    simp [isGap, h] at hc
  have hstay : pastGap line column (c :: text) = ⟨c :: text, line, column⟩ := by
    simp only [pastGap, hne, hc, Bool.false_eq_true, if_false]
  refine ⟨⟨c :: text, line, column⟩, rfl, ?_⟩
  show (Except.ok (pastGap line column (c :: text)).rest.head?,
    pastGap line column (c :: text)) = _
  rw [hstay]
  rfl

theorem refuses_failAhead {cause : Cause} : Refuses (failAhead cause : Scan α) depth text :=
  fun c _ => ⟨_, c, rfl⟩

/-- A word that is spelled out. -/
theorem reads_word (letters : List Char) : Reads (word letters) depth (letters ++ text) () text := by
  induction letters with
  | nil => exact reads_pure ()
  | cons w more ih =>
    unfold word
    refine reads_peek.bind ?_
    show Reads (if w == w then do advance; word more else failAhead .wordExpected) _ _ _ _
    rw [if_pos (beq_self_eq_true w)]
    exact reads_advance.bind ih

theorem reads_null :
    Reads (word "null".toList) depth ('n' :: 'u' :: 'l' :: 'l' :: text) () text :=
  reads_word ['n', 'u', 'l', 'l']

theorem reads_true :
    Reads (word "true".toList) depth ('t' :: 'r' :: 'u' :: 'e' :: text) () text :=
  reads_word ['t', 'r', 'u', 'e']

theorem reads_false :
    Reads (word "false".toList) depth ('f' :: 'a' :: 'l' :: 's' :: 'e' :: text) () text :=
  reads_word ['f', 'a', 'l', 's', 'e']

theorem reads_colon : Reads colon depth (':' :: text) () text :=
  (reads_peekPastGap rfl).bind reads_advance

/-! ## Brackets -/

theorem Reads.located (hx : Reads x depth text a rest) : Reads (located x) depth text a rest := by
  intro c hc
  obtain ⟨d, hd, hrun⟩ := hx c hc
  refine ⟨d, hd, ?_⟩
  unfold Scan.located
  rw [runAt_bind, runAt_attempt, hrun]
  rfl

theorem Refuses.located (hx : Refuses x depth text) : Refuses (located x) depth text := by
  intro c hc
  obtain ⟨fault, d, hrun⟩ := hx c hc
  unfold Scan.located
  rw [runAt_bind, runAt_attempt, hrun]
  dsimp only
  split
  · exact ⟨_, d, rfl⟩
  · exact ⟨_, d, rfl⟩

/-- What is between brackets is read with one level less. -/
theorem Reads.bracketed {close : Scan Unit} {bracket : Char} (hdepth : 1 < depth)
    (hx : Reads x (depth - 1) text a rest) (hclose : Reads close depth rest () more) :
    Reads (bracketed close x) depth (bracket :: text) a more := by
  refine reads_read.bind ?_
  rw [if_neg (Nat.not_le.mpr hdepth)]
  refine reads_advance.bind ?_
  -- The closing bracket is looked for whatever came of what is inside, so both are followed by hand.
  intro c hc
  obtain ⟨d, hd, hrun⟩ := hx c hc
  obtain ⟨e, he, hrun'⟩ := hclose d hd
  refine ⟨e, he, ?_⟩
  have hinside : runAt (fun _ => x (depth - 1)) depth c = (.ok a, d) := hrun
  rw [runAt_bind, runAt_attempt, hinside]
  dsimp only
  rw [runAt_bind, runAt_attempt, hrun']
  rfl

theorem Refuses.bracketed {close : Scan Unit} {bracket : Char} (hx : Refuses x (depth - 1) text) :
    Refuses (bracketed close x) depth (bracket :: text) := by
  refine reads_read.bind_refuses ?_
  split
  · exact refuses_failAhead
  refine reads_advance.bind_refuses ?_
  intro c hc
  obtain ⟨fault, d, hrun⟩ := hx c hc
  have hinside : runAt (fun _ => x (depth - 1)) depth c = (.error fault, d) := hrun
  rw [runAt_bind, runAt_attempt, hinside]
  dsimp only
  rw [runAt_bind, runAt_attempt]
  exact ⟨fault, _, rfl⟩

/-- Where the last level is reached no bracket is opened. -/
theorem refuses_bracketed {close : Scan Unit} (hdepth : depth ≤ 1) :
    Refuses (bracketed close x) depth text := by
  refine reads_read.bind_refuses ?_
  rw [if_pos hdepth]
  exact refuses_failAhead

theorem reads_closeList : Reads closeList depth (']' :: text) () text :=
  (reads_peekPastGap rfl).bind reads_advance

theorem reads_closeObject : Reads closeObject depth ('\x7d' :: text) () text :=
  (reads_peekPastGap rfl).bind reads_advance

/-! ## Commas -/

theorem reads_hasItem_close {first : Bool} :
    Reads (hasItem first) depth (']' :: text) false (']' :: text) :=
  (reads_peekPastGap rfl).bind (reads_pure false)

theorem reads_hasItem_first {c : Char} (hgap : isGap c = false) (hclose : c ≠ ']') :
    Reads (hasItem true) depth (c :: text) true (c :: text) := by
  refine (reads_peekPastGap hgap).bind ?_
  split
  · next h => cases h
  · next h =>
    cases h
    exact absurd rfl hclose
  · exact reads_pure true

theorem reads_hasItem_next {c : Char} (hgap : isGap c = false) (hclose : c ≠ ']') :
    Reads (hasItem false) depth (',' :: c :: text) true (c :: text) := by
  refine (reads_peekPastGap rfl).bind (reads_advance.bind ((reads_peekPastGap hgap).bind ?_))
  split
  · next h =>
    cases h
    exact absurd rfl hclose
  · exact reads_pure true
  · next h => cases h

theorem reads_hasEntry_close {first : Bool} :
    Reads (hasEntry first) depth ('\x7d' :: text) false ('\x7d' :: text) :=
  (reads_peekPastGap rfl).bind (reads_pure false)

theorem reads_hasEntry_first : Reads (hasEntry true) depth ('"' :: text) true ('"' :: text) :=
  (reads_peekPastGap rfl).bind (reads_pure true)

theorem reads_hasEntry_next : Reads (hasEntry false) depth (',' :: '"' :: text) true ('"' :: text) :=
  (reads_peekPastGap rfl).bind (reads_advance.bind ((reads_peekPastGap rfl).bind (reads_pure true)))

end ComponentTags.Json.Scan
