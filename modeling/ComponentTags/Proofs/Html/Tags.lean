import ComponentTags.Html.Parse
import ComponentTags.Proofs.Text.Casing

/-!
# Reading tags

What a reader makes of the characters of a tag without attributes: a token with the name in lower case,
which the builder takes when the closing bracket has been read.
-/

namespace ComponentTags.Html

open Text

namespace Reader

/-- What the next characters mean to a reader: its lexer is in this state and its builder in that, and no
line has just ended. -/
structure At (r : Reader) (lexer : State) (builder : Builder) : Prop where
  lexer : r.lexer = lexer
  builder : r.builder = builder
  afterReturn : r.afterReturn = false

/-- Any character but a byte order mark and a carriage return, which readers deal with themselves. -/
def IsPlain (c : Char) : Prop :=
  c ≠ '\uFEFF' ∧ c ≠ '\r'

instance (c : Char) : Decidable (IsPlain c) :=
  inferInstanceAs (Decidable (c ≠ '\uFEFF' ∧ c ≠ '\r'))

variable {r : Reader} {s next : State} {b after : Builder} {c : Char} {token : Token}

theorem step_of_isPlain (hr : r.At s b) (hc : IsPlain c) :
    r.step c = (s.step b.allowsSections c).1.foldl take
      { r.advance c with lexer := (s.step b.allowsSections c).2, afterReturn := false } := by
  obtain ⟨rfl, rfl, hreturn⟩ := hr
  obtain ⟨hmark, hline⟩ := hc
  have hsame : (r.advance c).afterReturn = false := hreturn
  unfold step
  rw [beq_false_of_ne hmark, Bool.and_false, if_neg Bool.false_ne_true]
  unfold read
  rw [hsame, Bool.false_and, if_neg Bool.false_ne_true, beq_false_of_ne hline,
    if_neg Bool.false_ne_true]
  rfl

/-- A character that completes no token. -/
theorem At.step_silent (hr : r.At s b) (hc : IsPlain c)
    (hstep : s.step b.allowsSections c = ([], next)) : (r.step c).At next b := by
  rw [step_of_isPlain hr hc, hstep]
  exact ⟨rfl, hr.builder, rfl⟩

/-- A character that completes a token, after which characters mean what they meant before. -/
theorem At.step_token (hr : r.At s b) (hc : IsPlain c)
    (hstep : s.step b.allowsSections c = ([token], next)) (htake : b.take token = (after, none)) :
    (r.step c).At next after := by
  rw [step_of_isPlain hr hc, hstep, List.foldl_cons, List.foldl_nil]
  have hbuilder : (r.advance c).builder = b := hr.builder
  unfold take
  dsimp only
  rw [hbuilder, htake]
  exact ⟨rfl, rfl, rfl⟩

/-! ## Names -/

/-- The characters that stand for themselves in the name of a tag, but for their case. -/
def IsNameChar (c : Char) : Prop :=
  IsPlain c ∧ isSpace c = false ∧ c ≠ '/' ∧ c ≠ '>' ∧ c.toLower ≠ '\x00'

instance (c : Char) : Decidable (IsNameChar c) :=
  inferInstanceAs (Decidable (IsPlain c ∧ isSpace c = false ∧ c ≠ '/' ∧ c ≠ '>' ∧ c.toLower ≠ '\x00'))

theorem tagNameStep_of_isNameChar (hc : IsNameChar c) (d : Draft) :
    tagNameStep d c =
      ([], .tagName { d with tag := { d.tag with name := d.tag.name.push c.toLower } }) := by
  obtain ⟨-, hspace, hslash, hclose, hnull⟩ := hc
  unfold tagNameStep
  rw [hspace, if_neg Bool.false_ne_true, beq_false_of_ne hslash, if_neg Bool.false_ne_true,
    beq_false_of_ne hclose, if_neg Bool.false_ne_true, orReplacement, beq_false_of_ne hnull,
    if_neg Bool.false_ne_true]

/-- The draft of a tag with this name. -/
def draft (closing : Bool) (name : List Char) : Draft where
  closing
  tag := { name := String.ofList name }

theorem push_draft (closing : Bool) (name : List Char) (c : Char) :
    ({ draft closing name with
      tag := { (draft closing name).tag with name := (draft closing name).tag.name.push c } } : Draft) =
      draft closing (name ++ [c]) := by
  have hpush : (String.ofList name).push c = String.ofList (name ++ [c]) := by
    rw [← String.toList_inj]
    simp
  rw [draft, draft, ← hpush]

theorem At.name {cs : List Char} (hcs : ∀ c ∈ cs, IsNameChar c) {closing : Bool} {name : List Char}
    (hr : r.At (.tagName (draft closing name)) b) :
    (cs.foldl step r).At (.tagName (draft closing (name ++ cs.map Char.toLower))) b := by
  induction cs generalizing r name with
  | nil =>
    rw [List.map_nil, List.append_nil]
    exact hr
  | cons c cs ih =>
    obtain ⟨hc, hcs⟩ := List.forall_mem_cons.mp hcs
    have hnext : (r.step c).At (.tagName (draft closing (name ++ [c.toLower]))) b := by
      refine hr.step_silent hc.1 ((tagNameStep_of_isNameChar hc _).trans ?_)
      rw [push_draft]
    have hrest := ih hcs hnext
    rwa [List.append_assoc, List.singleton_append, ← List.map_cons] at hrest

/-- What is left of a tag after the start of its name. -/
theorem At.restOfTag {cs : List Char} (hcs : ∀ c ∈ cs, IsNameChar c) {closing : Bool}
    {name : List Char} (hr : r.At (.tagName (draft closing name)) b)
    (htake : b.take (draft closing (name ++ cs.map Char.toLower)).token = (after, none)) :
    ((cs ++ ['>']).foldl step r).At .data after := by
  rw [List.foldl_append, List.foldl_cons, List.foldl_nil]
  exact (hr.name hcs).step_token (by decide) rfl htake

/-! ## Tags -/

variable {first : Char} {cs : List Char}

/-- The tag of a name, in lower case and without attributes. -/
def tagOf (name : List Char) : Tag :=
  { name := String.ofList (name.map Char.toLower) }

/-- The angle bracket before a letter starts a tag. -/
theorem tagOpenStep_of_isAlpha (h : first.isAlpha) :
    tagOpenStep first = ([], .tagName (draft false [first.toLower])) := by
  have hmark : first ≠ '!' := fun heq => by simp [heq] at h
  have hslash : first ≠ '/' := fun heq => by simp [heq] at h
  have hquestion : first ≠ '?' := fun heq => by simp [heq] at h
  unfold tagOpenStep
  rw [beq_false_of_ne hmark, if_neg Bool.false_ne_true, beq_false_of_ne hslash,
    if_neg Bool.false_ne_true, beq_false_of_ne hquestion, if_neg Bool.false_ne_true, if_pos h]
  rfl

theorem endTagOpenStep_of_isAlpha (h : first.isAlpha) :
    endTagOpenStep first = ([], .tagName (draft true [first.toLower])) := by
  unfold endTagOpenStep
  rw [if_pos h]
  rfl

/-- A start tag is taken when it ends. -/
theorem At.startTag (hr : r.At .data b) (hfirst : first.isAlpha) (hcs : ∀ c ∈ first :: cs, IsNameChar c)
    (htake : b.take (.startTag (tagOf (first :: cs))) = (after, none)) :
    (('<' :: (first :: cs ++ ['>'])).foldl step r).At .data after := by
  obtain ⟨hplain, hrest⟩ := List.forall_mem_cons.mp hcs
  have hopen : (r.step '<').At .tagOpen b := hr.step_silent (by decide) rfl
  have hletter := hopen.step_silent hplain.1 (tagOpenStep_of_isAlpha hfirst)
  show ((cs ++ ['>']).foldl step ((r.step '<').step first)).At .data after
  exact hletter.restOfTag hrest htake

/-- An end tag is taken when it ends. -/
theorem At.endTag (hr : r.At .data b) (hfirst : first.isAlpha) (hcs : ∀ c ∈ first :: cs, IsNameChar c)
    (htake : b.take (.endTag (tagOf (first :: cs))) = (after, none)) :
    (('<' :: '/' :: (first :: cs ++ ['>'])).foldl step r).At .data after := by
  obtain ⟨hplain, hrest⟩ := List.forall_mem_cons.mp hcs
  have hopen : (r.step '<').At .tagOpen b := hr.step_silent (by decide) rfl
  have hclosing : ((r.step '<').step '/').At .endTagOpen b := hopen.step_silent (by decide) rfl
  have hletter := hclosing.step_silent hplain.1 (endTagOpenStep_of_isAlpha hfirst)
  show ((cs ++ ['>']).foldl step (((r.step '<').step '/').step first)).At .data after
  exact hletter.restOfTag hrest htake

end Reader

end ComponentTags.Html
