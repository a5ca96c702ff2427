import ComponentTags.Category
import ComponentTags.Proofs.Forest.Listing
import ComponentTags.Proofs.Template.SelfClosing

/-!
# Text in which no tag starts

Nothing but the form of a tag is looked at, so one that stands in the value of an attribute or in a comment
is written out like any other. The text before some other text stays as it is exactly if no tag starts in it
(`expandFrom_append_eq_iff`), where a tag that starts in it may go on behind it. That the text does change
where one starts takes an argument, since what is written for the tag might happen to read the same as what
comes of the text behind. It would have to be another tag that ends at the same place, but the quotes of
a tag are all closed at its end, and so they are not seen from outside of one (`IsOpening.eq_of_suffix`).

It follows when the value of an attribute and the text of a comment are kept (`expand_markup_iff`).
-/

namespace ComponentTags.SelfClosing

open Text

variable {cs front back after text text' tail rest : List Char} {c : Char} {quote quote' : Option Char}
  {t : Tag}

/-! ## Quotes -/

/-- The quote that is open after one more character, if one is. -/
def quoteStep : Option Char → Char → Option Char
  | some quote, c => if c == quote then none else some quote
  | none, c => if c == '"' || c == '\'' then some c else none

/-- The quote that is open after a text, if one is. -/
def quoteAfter (quote : Option Char) (cs : List Char) : Option Char :=
  cs.foldl quoteStep quote

/-- No quote is open, or one of either kind. -/
def IsQuoteState (quote : Option Char) : Prop :=
  quote = none ∨ quote = some '"' ∨ quote = some '\''

theorem IsQuoteState.step (h : IsQuoteState quote) (c : Char) : IsQuoteState (quoteStep quote c) := by
  rcases h with rfl | rfl | rfl
  · show IsQuoteState (if c == '"' || c == '\'' then some c else none)
    split
    · next hquote =>
      rw [Bool.or_eq_true, beq_iff_eq, beq_iff_eq] at hquote
      rcases hquote with rfl | rfl
      · exact Or.inr (Or.inl rfl)
      · exact Or.inr (Or.inr rfl)
    · exact Or.inl rfl
  · show IsQuoteState (if c == '"' then none else some '"')
    split
    · exact Or.inl rfl
    · exact Or.inr (Or.inl rfl)
  · show IsQuoteState (if c == '\'' then none else some '\'')
    split
    · exact Or.inl rfl
    · exact Or.inr (Or.inr rfl)

/-- Only quotes matter. -/
theorem quoteStep_of_ne (hdouble : c ≠ '"') (hsingle : c ≠ '\'') : quoteStep none c = none := by
  simp [quoteStep, hdouble, hsingle]

/-- What a character does to the quotes it undoes again. -/
theorem quoteStep_quoteStep (h : IsQuoteState quote) (c : Char) :
    quoteStep (quoteStep quote c) c = quote := by
  by_cases hdouble : c = '"'
  · subst hdouble
    rcases h with rfl | rfl | rfl <;> rfl
  by_cases hsingle : c = '\''
  · subst hsingle
    rcases h with rfl | rfl | rfl <;> rfl
  · rcases h with rfl | rfl | rfl <;> simp [quoteStep, hdouble, hsingle]

/-- Behind the same text the same quote is open only if that was so before it. -/
theorem quoteAfter_ne (h : IsQuoteState quote) (h' : IsQuoteState quote') (hne : quote ≠ quote')
    (cs : List Char) : quoteAfter quote cs ≠ quoteAfter quote' cs := by
  induction cs generalizing quote quote' with
  | nil => exact hne
  | cons c cs ih =>
    refine ih (h.step c) (h'.step c) fun heq => hne ?_
    rw [← quoteStep_quoteStep h c, heq, quoteStep_quoteStep h' c]

theorem isQuoteState_quoteAfter (h : IsQuoteState quote) (cs : List Char) :
    IsQuoteState (quoteAfter quote cs) := by
  induction cs generalizing quote with
  | nil => exact h
  | cons c cs ih => exact ih (h.step c)

theorem quoteAfter_append (quote : Option Char) (front back : List Char) :
    quoteAfter quote (front ++ back) = quoteAfter (quoteAfter quote front) back :=
  List.foldl_append

/-! ## Openings -/

/-- If the quote is open before the text, then no quote is at its end, and each opening angle bracket in it is
within quotes. -/
structure Balanced (quote : Option Char) (text : List Char) : Prop where
  closed : quoteAfter quote text = none
  quoted {front back : List Char} : text = front ++ '<' :: back → quoteAfter quote front ≠ none

theorem Balanced.nil : Balanced none [] :=
  ⟨rfl, fun heq => absurd heq (by simp)⟩

theorem Balanced.cons (h : Balanced (quoteStep quote c) text) (hopen : quote = none → c ≠ '<') :
    Balanced quote (c :: text) := by
  refine ⟨h.closed, fun {front back} heq => ?_⟩
  cases front with
  | nil => exact fun hnone => hopen hnone (List.cons.inj heq).1
  | cons d front =>
    obtain ⟨rfl, hmore⟩ := List.cons.inj heq
    exact h.quoted hmore

/-- Text without angle brackets and quotes may come before. -/
theorem Balanced.append (h : Balanced none text) (hfront : ∀ c ∈ front, c ≠ '<' ∧ c ≠ '"' ∧ c ≠ '\'') :
    Balanced none (front ++ text) := by
  induction front with
  | nil => exact h
  | cons c front ih =>
    obtain ⟨⟨hopen, hdouble, hsingle⟩, hfront⟩ := List.forall_mem_cons.mp hfront
    refine Balanced.cons ?_ fun _ => hopen
    rw [quoteStep_of_ne hdouble hsingle]
    exact ih hfront

/-- What the text of a tag is before the blanks and the slash at its end. -/
def IsOpening (text : List Char) : Prop :=
  ∃ more, text = '<' :: more ∧ Balanced none more

/-- No opening ends with a shorter one. -/
theorem IsOpening.eq_of_suffix (h : IsOpening text) (h' : IsOpening text') (hsuffix : text' <:+ text) :
    text' = text := by
  obtain ⟨more, rfl, hmore⟩ := h
  obtain ⟨more', rfl, hmore'⟩ := h'
  rcases List.suffix_cons_iff.mp hsuffix with hsame | ⟨front, rfl⟩
  · exact hsame
  · -- The shorter one starts within a quote, so not all quotes are closed at the end of both.
    have hstate : IsQuoteState none := Or.inl rfl
    have hopen : quoteAfter none front ≠ none := hmore.quoted rfl
    have hdiffer := quoteAfter_ne (isQuoteState_quoteAfter hstate front) hstate hopen ('<' :: more')
    rw [← quoteAfter_append, hmore.closed] at hdiffer
    exact absurd hmore'.closed.symm hdiffer

/-- What stands behind the opening of a tag that closes itself. -/
def IsEnd (tail : List Char) : Prop :=
  ∃ gap after, tail = gap ++ '/' :: '>' :: after ∧ ∀ c ∈ gap, isBlank c

theorem IsEnd.exists_cons (h : IsEnd tail) : ∃ c rest, tail = c :: rest ∧ c ≠ '<' ∧ c ≠ '>' := by
  obtain ⟨gap, after, rfl, hgap⟩ := h
  cases gap with
  | nil => exact ⟨'/', '>' :: after, rfl, by decide, by decide⟩
  | cons c gap =>
    have hc := hgap c List.mem_cons_self
    exact ⟨c, _, rfl, ne_of_kind hc (by decide), ne_of_kind hc (by decide)⟩

theorem isEnd_of_close? (h : close? cs = some after) : IsEnd cs := by
  unfold close? at h
  split at h
  · next rest hrest =>
    refine ⟨cs.takeWhile isBlank, rest, ?_, List.all_eq_true.mp List.all_takeWhile⟩
    rw [← hrest, List.takeWhile_append_dropWhile]
  · cases h

/-- The search for the end of a tag sees the quotes of what it goes through. -/
theorem balanced_of_attributes? (h : attributes? quote cs = some (text, after)) :
    Balanced quote text ∧ ∃ tail, cs = text ++ tail ∧ IsEnd tail := by
  induction cs generalizing quote text with
  | nil => cases quote <;> simp [attributes?] at h
  | cons c rest ih =>
    cases quote with
    | some quote =>
      rw [attributes?, Option.map_eq_some_iff] at h
      obtain ⟨⟨text', after'⟩, hrest, heq⟩ := h
      obtain ⟨rfl, rfl⟩ := Prod.mk.inj heq
      obtain ⟨hbalanced, tail, rfl, htail⟩ := ih hrest
      have hstep : Balanced (quoteStep (some quote) c) text' := hbalanced
      exact ⟨hstep.cons fun hnone => absurd hnone (Option.some_ne_none quote), tail, rfl, htail⟩
    | none =>
      rw [attributes?] at h
      split at h
      · next after' hclose =>
        obtain ⟨rfl, rfl⟩ := Prod.mk.inj (Option.some.inj h)
        exact ⟨.nil, c :: rest, rfl, isEnd_of_close? hclose⟩
      split at h
      · cases h
      · next hangle =>
        obtain ⟨⟨text', after'⟩, hrest, heq⟩ := Option.map_eq_some_iff.mp h
        obtain ⟨rfl, rfl⟩ := Prod.mk.inj heq
        obtain ⟨hbalanced, tail, rfl, htail⟩ := ih hrest
        have hstep : Balanced (quoteStep none c) text' := hbalanced
        refine ⟨hstep.cons fun _ => ?_, tail, rfl, htail⟩
        rintro rfl
        exact hangle rfl

/-- No character of a name is an angle bracket or a quote. -/
theorem IsComponentName.not_mark {name : List Char} (h : IsComponentName name) :
    ∀ c ∈ name, c ≠ '<' ∧ c ≠ '"' ∧ c ≠ '\'' := by
  have hmarks {kind : Char → Bool} (hnone : kind '<' = false ∧ kind '"' = false ∧ kind '\'' = false)
      {c : Char} (hc : kind c) : c ≠ '<' ∧ c ≠ '"' ∧ c ≠ '\'' :=
    ⟨ne_of_kind hc hnone.1, ne_of_kind hc hnone.2.1, ne_of_kind hc hnone.2.2⟩
  rcases h with ⟨first, back, rfl, hfirst, hback⟩ | h
  · exact List.forall_mem_cons.mpr
      ⟨hmarks (by decide) hfirst, fun c hc => hmarks (by decide) (hback c hc)⟩
  · exact fun c hc => hmarks (by decide) (h.isHyphenatedNameChar c hc)

/-- The text of a tag before the blanks at its end, which is written as it is. -/
def Tag.opening (t : Tag) : List Char :=
  '<' :: t.name ++ t.attributes

/-- A tag that is found consists of its opening and an end. -/
theorem isOpening_of_tag? (h : tag? cs = some t) :
    IsOpening t.opening ∧ ∃ tail, cs = t.opening ++ tail ∧ IsEnd tail := by
  obtain ⟨rest, rfl, hname, hcases⟩ := cases_of_tag? h
  have hopening (hattributes : Balanced none t.attributes) : IsOpening t.opening :=
    ⟨t.name ++ t.attributes, rfl, hattributes.append hname.not_mark⟩
  obtain ⟨c, more, text, rfl, hblank, hattributes, htext⟩ | ⟨hclose, htext⟩ := hcases
  · obtain ⟨hbalanced, tail, rfl, htail⟩ := balanced_of_attributes? hattributes
    refine ⟨hopening ?_, tail, by simp [Tag.opening, htext], htail⟩
    rw [htext]
    refine Balanced.cons ?_ fun _ => ne_of_kind hblank (by decide)
    rwa [quoteStep_of_ne (ne_of_kind hblank (by decide)) (ne_of_kind hblank (by decide))]
  · exact ⟨hopening (htext ▸ .nil), rest, by simp [Tag.opening, htext], isEnd_of_close? hclose⟩

/-! ## Where tags start -/

/-- A tag starts in the front of a text, be it over by the end of the front or not. -/
def TagStartsIn (front after : List Char) : Prop :=
  ∃ back, back <:+ front ∧ back ≠ [] ∧ (tag? (back ++ after)).isSome

theorem not_tagStartsIn_nil (after : List Char) : ¬TagStartsIn [] after := by
  rintro ⟨back, hback, hne, -⟩
  exact hne (List.suffix_nil.mp hback)

theorem tagStartsIn_cons : TagStartsIn (c :: front) after ↔
    (tag? (c :: (front ++ after))).isSome ∨ TagStartsIn front after := by
  constructor
  · rintro ⟨back, hback, hne, htag⟩
    rcases List.suffix_cons_iff.mp hback with rfl | hback
    · exact Or.inl htag
    · exact Or.inr ⟨back, hback, hne, htag⟩
  · rintro (htag | ⟨back, hback, hne, htag⟩)
    · exact ⟨c :: front, List.suffix_rfl, List.cons_ne_nil c front, htag⟩
    · exact ⟨back, hback.trans (List.suffix_cons c front), hne, htag⟩

instance decidableTagStartsIn (after : List Char) : (front : List Char) → Decidable (TagStartsIn front after)
  | [] => isFalse (not_tagStartsIn_nil after)
  | c :: front =>
    haveI := decidableTagStartsIn after front
    decidable_of_iff' ((tag? (c :: (front ++ after))).isSome ∨ TagStartsIn front after) tagStartsIn_cons

/-- Where tags start in the front, there is a first. -/
theorem TagStartsIn.exists_first (h : TagStartsIn front after) :
    ∃ before back t, front = before ++ back ∧ back ≠ [] ∧ tag? (back ++ after) = some t ∧
      ¬TagStartsIn before (back ++ after) := by
  induction front with
  | nil => exact absurd h (not_tagStartsIn_nil after)
  | cons c front ih =>
    cases htag : tag? (c :: (front ++ after)) with
    | some t => exact ⟨[], c :: front, t, rfl, List.cons_ne_nil c front, htag, not_tagStartsIn_nil _⟩
    | none =>
      rw [tagStartsIn_cons, htag] at h
      obtain ⟨before, back, t, rfl, hne, hfirst, hnot⟩ := ih (h.resolve_left (by simp))
      refine ⟨c :: before, back, t, rfl, hne, hfirst, ?_⟩
      rw [tagStartsIn_cons, ← List.append_assoc, htag]
      simpa using hnot

/-- Text in which no tag starts is passed over. -/
theorem expandFrom_append_of_not_tagStartsIn (h : ¬TagStartsIn front after) :
    expandFrom 0 (front ++ after) = front ++ expandFrom 0 after := by
  induction front with
  | nil => rfl
  | cons c front ih =>
    rw [tagStartsIn_cons, not_or, Option.not_isSome_iff_eq_none] at h
    rw [List.cons_append, expandFrom_of_tag?_eq_none h.1, ih h.2, List.cons_append]

/-! ## What stays as it is -/

/-- A tag is written with its opening, and then an angle bracket. -/
theorem exists_expandFrom_eq (h : tag? cs = some t) :
    ∃ rest, expandFrom 0 cs = t.opening ++ '>' :: rest := by
  obtain ⟨c, cs, rfl⟩ : ∃ c more, cs = c :: more :=
    List.exists_cons_of_ne_nil fun hnil => by rw [hnil] at h; cases h
  rw [expandFrom_of_tag? h]
  exact ⟨['<', '/'] ++ t.name ++ ['>'] ++ expandFrom 0 t.after, by simp [Tag.written, Tag.opening]⟩

/-- If a text is split before two characters that are not this one, but the parts before them go on with it
to the same text, then it is split in one place. -/
theorem eq_of_append_cons_eq {front' tail' rest' : List Char} (hsplit : front ++ tail = front' ++ tail')
    (hcons : front ++ c :: rest = front' ++ c :: rest') (htail : ∀ d ∈ tail.head?, d ≠ c)
    (htail' : ∀ d ∈ tail'.head?, d ≠ c) : front = front' := by
  rcases List.append_eq_append_iff.mp hcons with ⟨more, rfl, hmore⟩ | ⟨more, rfl, hmore⟩
  · cases more with
    | nil => exact (List.append_nil front).symm
    | cons d more =>
      obtain ⟨rfl, -⟩ := List.cons.inj hmore
      rw [List.append_assoc, List.append_cancel_left_eq] at hsplit
      exact absurd rfl (htail c (by rw [hsplit]; rfl))
  · cases more with
    | nil => exact List.append_nil front'
    | cons d more =>
      obtain ⟨rfl, -⟩ := List.cons.inj hmore
      rw [List.append_assoc, List.append_cancel_left_eq] at hsplit
      exact absurd rfl (htail' c (by rw [← hsplit]; rfl))

theorem IsEnd.head_ne (h : IsEnd tail) : ∀ c ∈ tail.head?, c ≠ '>' := by
  obtain ⟨c, rest, rfl, -, hc⟩ := h.exists_cons
  rintro _ ⟨⟩
  exact hc

theorem IsEnd.expandFrom_ne (h : IsEnd tail) (rest : List Char) : expandFrom 0 tail ≠ '>' :: rest := by
  obtain ⟨c, more, rfl, hopen, hend⟩ := h.exists_cons
  rw [expandFrom_of_tag?_eq_none (tag?_eq_none_of_ne hopen)]
  exact fun heq => hend (List.cons.inj heq).1

/-- Between a text that no opening is the end of and the end of a tag, no angle bracket is put. -/
theorem expandFrom_append_ne (htail : IsEnd tail) (h : ∀ text', IsOpening text' → ¬text' <:+ text)
    (rest : List Char) : expandFrom 0 (text ++ tail) ≠ text ++ '>' :: rest := by
  intro heq
  by_cases hstarts : TagStartsIn text tail
  · obtain ⟨before, back, t, rfl, -, htag, hnot⟩ := hstarts.exists_first
    obtain ⟨hopening, tail', hsplit, htail'⟩ := isOpening_of_tag? htag
    obtain ⟨rest', hwritten⟩ := exists_expandFrom_eq htag
    rw [List.append_assoc, expandFrom_append_of_not_tagStartsIn hnot, List.append_assoc,
      List.append_cancel_left_eq, hwritten] at heq
    -- A tag that starts in the text has its opening end where the text does.
    have hback : t.opening = back :=
      eq_of_append_cons_eq hsplit.symm heq htail'.head_ne htail.head_ne
    exact h t.opening hopening (hback ▸ List.suffix_append before back)
  · rw [expandFrom_append_of_not_tagStartsIn hstarts, List.append_cancel_left_eq] at heq
    exact htail.expandFrom_ne rest heq

/-- The front of a text stays as it is, and what is behind it is gone through on its own, exactly if no tag
starts in the front. -/
theorem expandFrom_append_eq_iff :
    expandFrom 0 (front ++ after) = front ++ expandFrom 0 after ↔ ¬TagStartsIn front after := by
  refine ⟨fun heq hstarts => ?_, expandFrom_append_of_not_tagStartsIn⟩
  obtain ⟨before, back, t, rfl, hne, htag, hnot⟩ := hstarts.exists_first
  obtain ⟨hopening, tail, hsplit, htail⟩ := isOpening_of_tag? htag
  obtain ⟨rest, hwritten⟩ := exists_expandFrom_eq htag
  rw [List.append_assoc, expandFrom_append_of_not_tagStartsIn hnot, List.append_assoc,
    List.append_cancel_left_eq, hwritten] at heq
  rcases List.append_eq_append_iff.mp hsplit with ⟨more, hmore, rfl⟩ | ⟨more, rfl, rfl⟩
  · -- The opening reaches behind the front, where what is left of it would have to stay as it is.
    rw [hmore, List.append_assoc, List.append_cancel_left_eq] at heq
    refine expandFrom_append_ne htail (fun text' htext' hsuffix => ?_) rest heq.symm
    have hsame : text' = t.opening :=
      hopening.eq_of_suffix htext' (hmore ▸ hsuffix.trans (List.suffix_append back more))
    have hlength := hsuffix.length_le
    rw [hsame, hmore, List.length_append] at hlength
    have hback := List.length_pos_of_ne_nil hne
    omega
  · -- The opening is over before the front is, and no angle bracket follows it there.
    rw [List.append_assoc, List.append_cancel_left_eq] at heq
    cases more with
    | nil => exact htail.expandFrom_ne rest heq.symm
    | cons c more =>
      obtain ⟨rfl, -⟩ := List.cons.inj heq
      exact htail.head_ne _ rfl rfl

/-! ## Markup that is no component tag -/

/-- A name of small letters and digits, which a blank comes after, is none of a component. -/
theorem name?_of_plain {first : Char} {more : List Char} (hfirst : first.isLower)
    (hmore : ∀ c ∈ more, isLowerNameChar c) (rest : List Char) :
    name? (first :: more ++ ' ' :: rest) = none := by
  have hblank : ∀ c ∈ (' ' :: rest).head?, isLowerNameChar c = false := by
    rintro _ ⟨⟩
    decide
  rw [List.cons_append, name?, not_isUpper_of_isLowerNameChar (isLowerNameChar_of_isLower hfirst),
    if_neg Bool.false_ne_true, if_pos hfirst]
  dsimp only
  rw [dropWhile_append_stop hmore hblank]
  rfl

/-- The names of native tags are plain. -/
theorem nativeTags_plain : ∀ tag ∈ nativeTags, ∃ first more, tag.toList = first :: more ∧ first.isLower ∧
    ∀ c ∈ more, isLowerNameChar c := by
  have hall : nativeTags.all (fun tag => tag.toList.head?.any Char.isLower &&
      tag.toList.tail.all isLowerNameChar) := by
    decide
  intro tag htag
  have hplain := List.all_eq_true.mp hall tag htag
  rw [Bool.and_eq_true] at hplain
  obtain ⟨hfirst, hmore⟩ := hplain
  cases hchars : tag.toList with
  | nil =>
    rw [hchars] at hfirst
    cases hfirst
  | cons first more =>
    rw [hchars] at hfirst hmore
    exact ⟨first, more, rfl, hfirst, List.all_eq_true.mp hmore⟩

/-- Between markup that is kept, a text is kept exactly if no tag starts in it. -/
theorem expandFrom_between_iff {pre head body close : List Char} (hpre : '<' ∉ pre) (hhead : '<' ∉ head)
    (hclose : '<' ∉ close) (hnone : tag? ('<' :: (head ++ (body ++ (close ++ rest)))) = none) :
    expandFrom 0 (pre ++ '<' :: (head ++ (body ++ (close ++ rest)))) =
        pre ++ '<' :: (head ++ (body ++ (close ++ expandFrom 0 rest))) ↔
      ¬TagStartsIn body (close ++ rest) := by
  rw [expandFrom_append_of_not_mem hpre, expandFrom_of_tag?_eq_none hnone,
    expandFrom_append_of_not_mem hhead, List.append_cancel_left_eq, List.cons.injEq,
    List.append_cancel_left_eq, ← expandFrom_append_of_not_mem hclose, expandFrom_append_eq_iff]
  exact and_iff_right rfl

/-- Behind text without an angle bracket, the value of an attribute of a native tag is kept, and the text
behind the tag is gone through on its own, exactly if no component tag that closes itself starts in the
value. It is the same with the text of a comment. -/
theorem expand_markup_iff {pre : String} (hpre : '<' ∉ pre.toList) (rest : String) :
    (∀ tag ∈ nativeTags, ∀ name value : String, '<' ∉ name.toList →
      (expand (pre ++ "<" ++ tag ++ " " ++ name ++ "=\"" ++ value ++ "\">" ++ rest) =
          pre ++ "<" ++ tag ++ " " ++ name ++ "=\"" ++ value ++ "\">" ++ expand rest ↔
        ¬TagStartsIn value.toList ("\">".toList ++ rest.toList))) ∧
    ∀ comment : String,
      expand (pre ++ "<!--" ++ comment ++ "-->" ++ rest) = pre ++ "<!--" ++ comment ++ "-->" ++ expand rest ↔
        ¬TagStartsIn comment.toList ("-->".toList ++ rest.toList) := by
  constructor
  · intro tag htag name value hname
    obtain ⟨first, more, hchars, hfirst, hmore⟩ := nativeTags_plain tag htag
    have hplain : '<' ∉ first :: more := by
      rw [List.mem_cons, not_or]
      constructor
      · rintro rfl
        cases hfirst
      · exact fun hmem => absurd (hmore '<' hmem) (by decide)
    have hhead : '<' ∉ first :: more ++ ' ' :: (name.toList ++ ['=', '"']) := by
      simp_all
    have hnone (after : List Char) :
        tag? ('<' :: (first :: more ++ ' ' :: (name.toList ++ ['=', '"']) ++ after)) = none := by
      have hbind (cs : List Char) : tag? ('<' :: cs) = (name? cs).bind _ := rfl
      have hread := name?_of_plain hfirst hmore (name.toList ++ ['=', '"'] ++ after)
      rw [← List.cons_append, ← List.append_assoc] at hread
      rw [hbind, hread, Option.bind_none]
    rw [← expandFrom_between_iff hpre hhead (by decide) (hnone _), ← String.toList_inj]
    simp [expand, hchars]
  · intro comment
    have hnone (after : List Char) : tag? ('<' :: ("!--".toList ++ after)) = none := rfl
    rw [← expandFrom_between_iff hpre (by decide) (by decide) (hnone _), ← String.toList_inj]
    simp [expand]

/-- A value with a void tag, and a comment with a tag that is over only behind it, in quotes that take the
end of the comment in. -/
theorem expand_markup_of_void_tag :
    '<' ∉ "1 > 0".toList ∧
      expand ("1 > 0" ++ "<" ++ "img" ++ " " ++ "alt" ++ "=\"" ++ "<br/> is <b" ++ "\">" ++ "<x-y/>") =
        "1 > 0<img alt=\"<br/> is <b\"><x-y></x-y>" ∧
      expand ("1 > 0" ++ "<!--" ++ "<x-y z=\x27" ++ "-->" ++ "\x27/>") ≠
        "1 > 0" ++ "<!--" ++ "<x-y z=\x27" ++ "-->" ++ expand "\x27/>" := by
  have hpre : '<' ∉ "1 > 0".toList := by decide
  obtain ⟨hvalue, -⟩ := expand_markup_iff hpre "<x-y/>"
  obtain ⟨-, hcomment⟩ := expand_markup_iff hpre "\x27/>"
  have hvoid := (hvalue "img" (by decide) "alt" "<br/> is <b" (by decide)).mpr (by decide +kernel)
  have hrest : expand "<x-y/>" = "<x-y></x-y>" := by decide +kernel
  rw [hrest] at hvoid
  refine ⟨hpre, hvoid, fun hkept => ?_⟩
  exact (hcomment "<x-y z=\x27").mp hkept (by decide +kernel)

/-- A component tag in a value is written out, and so is one in a comment, and both are read like that. -/
theorem component_tag_in_markup_written :
    ¬(∀ pre tag name value rest : String, '<' ∉ pre.toList → tag ∈ nativeTags →
      (∀ c ∈ name.toList, c.isAlpha) → '"' ∉ value.toList →
        expand (pre ++ "<" ++ tag ++ " " ++ name ++ "=\"" ++ value ++ "\">" ++ rest) =
          pre ++ "<" ++ tag ++ " " ++ name ++ "=\"" ++ value ++ "\">" ++ expand rest) ∧
      ¬(∀ pre comment rest : String, '<' ∉ pre.toList → ¬"-->".toList <:+: comment.toList →
        expand (pre ++ "<!--" ++ comment ++ "-->" ++ rest) =
          pre ++ "<!--" ++ comment ++ "-->" ++ expand rest) ∧
      listAll 0 (Template.parse "<div title=\"<my-widget/>\"></div>").nodes =
        [⟨0, .element
          { tag := "div"
            attributes := [⟨"title", "<my-widget></my-widget>", ⟨1, 1⟩⟩]
            location := ⟨1, 1⟩ }⟩] ∧
      listAll 0 (Template.parse "<!--<my-widget/>-->").nodes =
        [⟨0, .comment "<my-widget></my-widget>" ⟨1, 1⟩⟩] := by
  refine ⟨fun h => ?_, fun h => ?_, by decide +kernel, by decide +kernel⟩
  · have hkept := h "" "div" "title" "<my-widget/>" "</div>" (by decide) (by decide)
      (List.all_eq_true.mp rfl) (by decide)
    exact absurd hkept (by decide +kernel)
  · have hkept := h "" "<my-widget/>" "" (by decide) (by decide +kernel)
    exact absurd hkept (by decide +kernel)

end ComponentTags.SelfClosing
