import ComponentTags.Proofs.Template.SelfClosing

/-!
# Tags with attributes

What a self-closing component tag looks like, and that it is written out as a whole. What follows its name is
a row of attributes, each after some blanks, in which only quotes hold angle brackets and slashes. The search
for the end of a tag passes each attribute (`IsAttributes.passed`), so it stops at the slash behind the last
one and nowhere else. A tag of this form is written out, whatever comes before and after it
(`expand_selfClosing`).
-/

namespace ComponentTags.SelfClosing

open Text

variable {name cs after : List Char} {c : Char} {t : Tag}

/-! ## Attributes -/

/-- Whether a character may stand in an attribute outside of quotes. -/
def isBareChar (c : Char) : Bool :=
  !isBlank c && !(['<', '>', '"', '\'', '/'].contains c)

/-- What may come after the name of an attribute: nothing, or a value in quotes that does not hold the
quote itself. -/
inductive IsValue : List Char → Prop where
  | absent : IsValue []
  | quoted {quote : Char} {text : List Char} : quote = '"' ∨ quote = '\'' → quote ∉ text →
      IsValue ('=' :: quote :: text ++ [quote])

/-- The text of an attribute, with the blanks before it. -/
def IsAttribute (cs : List Char) : Prop :=
  ∃ gap bare value, cs = gap ++ bare ++ value ∧ gap ≠ [] ∧ (∀ c ∈ gap, isBlank c) ∧ bare ≠ [] ∧
    (∀ c ∈ bare, isBareChar c) ∧ IsValue value

/-- The text of some attributes, one after the other. -/
inductive IsAttributes : List Char → Prop where
  | nil : IsAttributes []
  | cons {cs rest : List Char} : IsAttribute cs → IsAttributes rest → IsAttributes (cs ++ rest)

/-- The search for the end of a tag goes through this text, whatever comes after it. -/
def Passed (cs : List Char) : Prop :=
  ∀ after, attributes? none (cs ++ after) = (attributes? none after).map fun p => (cs ++ p.1, p.2)

theorem Passed.append {front back : List Char} (hfront : Passed front) (hback : Passed back) :
    Passed (front ++ back) := by
  intro after
  rw [List.append_assoc, hfront, hback, Option.map_map]
  congr 1
  funext p
  exact congrArg (·, p.2) (List.append_assoc front back p.1).symm

theorem close?_blanks_append {gap : List Char} (hgap : ∀ c ∈ gap, isBlank c) (after : List Char) :
    close? (gap ++ after) = close? after := by
  unfold close?
  rw [List.dropWhile_append_of_pos hgap]

theorem close?_of_head (hblank : isBlank c = false) (hslash : c ≠ '/') (rest : List Char) :
    close? (c :: rest) = none := by
  unfold close?
  rw [List.dropWhile_cons_of_neg (by simp [hblank])]
  split
  · next heq => exact absurd (List.cons.inj heq).1 hslash
  · rfl

/-- A character that neither closes the tag nor is an angle bracket is passed. -/
theorem attributes?_cons {rest : List Char} (hclose : close? (c :: rest) = none) (hopen : c ≠ '<')
    (hend : c ≠ '>') :
    attributes? none (c :: rest) =
      (attributes? (if c == '"' || c == '\'' then some c else none) rest).map
        fun p => (c :: p.1, p.2) := by
  have hangle : (c == '<' || c == '>') = false := by
    rw [beq_false_of_ne hopen, beq_false_of_ne hend, Bool.or_self]
  rw [attributes?, hclose, hangle]
  rfl

theorem isBareChar_iff :
    isBareChar c ↔ isBlank c = false ∧ c ≠ '<' ∧ c ≠ '>' ∧ c ≠ '"' ∧ c ≠ '\'' ∧ c ≠ '/' := by
  simp [isBareChar]

theorem passed_bareChar (h : isBareChar c) : Passed [c] := by
  intro after
  obtain ⟨hblank, hopen, hend, hdouble, hsingle, hslash⟩ := isBareChar_iff.mp h
  have hquote : (c == '"' || c == '\'') = false := by
    rw [beq_false_of_ne hdouble, beq_false_of_ne hsingle, Bool.or_self]
  rw [List.singleton_append, attributes?_cons (close?_of_head hblank hslash after) hopen hend, hquote]
  rfl

theorem passed_bare {bare : List Char} (h : ∀ c ∈ bare, isBareChar c) : Passed bare := by
  induction bare with
  | nil =>
    intro after
    exact Option.map_id'.symm
  | cons c bare ih =>
    obtain ⟨hc, hbare⟩ := List.forall_mem_cons.mp h
    exact (passed_bareChar hc).append (ih hbare)

/-- Within quotes everything up to the closing quote is passed, be it an end of a tag or not. -/
theorem attributes?_quoted {quote : Char} {text : List Char} (h : quote ∉ text) (after : List Char) :
    attributes? (some quote) (text ++ quote :: after) =
      (attributes? none after).map fun p => (text ++ quote :: p.1, p.2) := by
  induction text with
  | nil =>
    rw [List.nil_append, attributes?, beq_self_eq_true, if_pos rfl]
    rfl
  | cons c text ih =>
    rw [List.mem_cons, not_or] at h
    rw [List.cons_append, attributes?, beq_false_of_ne (Ne.symm h.1), if_neg Bool.false_ne_true, ih h.2,
      Option.map_map]
    rfl

theorem IsValue.passed {value : List Char} (h : IsValue value) : Passed value := by
  cases h with
  | absent => exact passed_bare nofun
  | @quoted quote text hquote htext =>
    have hequals : Passed ['='] := passed_bareChar (by decide)
    have hrest : Passed (quote :: text ++ [quote]) := by
      intro after
      have hstep : attributes? none (quote :: (text ++ quote :: after)) =
          (attributes? (some quote) (text ++ quote :: after)).map fun p => (quote :: p.1, p.2) := by
        rcases hquote with rfl | rfl
        · exact attributes?_cons (close?_of_head (by decide) (by decide) _) (by decide) (by decide)
        · exact attributes?_cons (close?_of_head (by decide) (by decide) _) (by decide) (by decide)
      rw [List.append_assoc, List.cons_append, List.singleton_append, hstep, attributes?_quoted htext,
        Option.map_map]
      congr 1
      funext p
      simp
    exact hequals.append hrest

/-- Blanks are passed if what comes next does not close the tag. -/
theorem attributes?_blanks_append {gap : List Char} (hgap : ∀ c ∈ gap, isBlank c)
    (hclose : close? after = none) :
    attributes? none (gap ++ after) = (attributes? none after).map fun p => (gap ++ p.1, p.2) := by
  induction gap with
  | nil => exact Option.map_id'.symm
  | cons c gap ih =>
    have hc := hgap c List.mem_cons_self
    have hrest : ∀ c ∈ gap, isBlank c := fun d hd => hgap d (List.mem_cons_of_mem c hd)
    have hhere : close? (c :: (gap ++ after)) = none := by
      rw [← List.cons_append, close?_blanks_append hgap, hclose]
    have hopen : c ≠ '<' := ne_of_kind hc (by decide)
    have hend : c ≠ '>' := ne_of_kind hc (by decide)
    have hquote : (c == '"' || c == '\'') = false := by
      rw [beq_false_of_ne (ne_of_kind hc (by decide)), beq_false_of_ne (ne_of_kind hc (by decide)),
        Bool.or_self]
    rw [List.cons_append, attributes?_cons hhere hopen hend, hquote, if_neg Bool.false_ne_true, ih hrest,
      Option.map_map]
    rfl

/-- An attribute is passed, with however many of the blanks before it. -/
theorem passed_attribute {gap bare value : List Char} (hgap : ∀ c ∈ gap, isBlank c) (hne : bare ≠ [])
    (hbare : ∀ c ∈ bare, isBareChar c) (hvalue : IsValue value) : Passed (gap ++ bare ++ value) := by
  intro after
  have hrest : Passed (bare ++ value) := (passed_bare hbare).append hvalue.passed
  have hclose : close? (bare ++ value ++ after) = none := by
    obtain ⟨c, bare, rfl⟩ := List.exists_cons_of_ne_nil hne
    obtain ⟨hblank, -, -, -, -, hslash⟩ := isBareChar_iff.mp (hbare c List.mem_cons_self)
    exact close?_of_head hblank hslash _
  rw [List.append_assoc gap, List.append_assoc gap, attributes?_blanks_append hgap hclose, hrest,
    Option.map_map]
  congr 1
  funext p
  exact congrArg (·, p.2) (List.append_assoc gap _ p.1).symm

theorem IsAttributes.passed (h : IsAttributes cs) : Passed cs := by
  induction h with
  | nil => exact passed_bare nofun
  | cons hfirst hrest ih =>
    obtain ⟨gap, bare, value, rfl, -, hgap, hne, hbare, hvalue⟩ := hfirst
    exact (passed_attribute hgap hne hbare hvalue).append ih

/-- If there are attributes, they start with a blank, and what is behind it is passed. -/
theorem IsAttributes.cases_head (h : IsAttributes cs) :
    cs = [] ∨ ∃ c rest, cs = c :: rest ∧ isBlank c ∧ Passed rest := by
  cases h with
  | nil => exact Or.inl rfl
  | cons hfirst hrest =>
    obtain ⟨gap, bare, value, rfl, hgap, hblank, hne, hbare, hvalue⟩ := hfirst
    obtain ⟨c, gap, rfl⟩ := List.exists_cons_of_ne_nil hgap
    obtain ⟨hc, hblank⟩ := List.forall_mem_cons.mp hblank
    exact Or.inr ⟨c, _, rfl, hc, (passed_attribute hblank hne hbare hvalue).append hrest.passed⟩

/-! ## Self-closing tags -/

variable {attributes gap : List Char}

/-- What stands between the name and the end of a tag that is written out: its attributes, or the first of
the blanks where there are none. -/
def kept (attributes gap : List Char) : List Char :=
  if attributes = [] then gap.take 1 else attributes

theorem close?_blanks (hgap : ∀ c ∈ gap, isBlank c) (rest : List Char) :
    close? (gap ++ '/' :: '>' :: rest) = some rest := by
  rw [close?_blanks_append hgap]
  rfl

/-- The search ends before the blanks that the slash comes after. -/
theorem attributes?_blanks (hgap : ∀ c ∈ gap, isBlank c) (rest : List Char) :
    attributes? none (gap ++ '/' :: '>' :: rest) = some ([], rest) := by
  have hclose := close?_blanks hgap rest
  obtain ⟨c, more, hcons⟩ : ∃ c more, gap ++ '/' :: '>' :: rest = c :: more :=
    List.exists_cons_of_ne_nil (by simp)
  rw [hcons] at hclose ⊢
  rw [attributes?, hclose]

/-- A tag that closes itself is found where it starts. -/
theorem IsComponentName.tag?_eq (h : IsComponentName name) (hattributes : IsAttributes attributes)
    (hgap : ∀ c ∈ gap, isBlank c) (rest : List Char) :
    tag? ('<' :: name ++ attributes ++ gap ++ '/' :: '>' :: rest) =
      some ⟨name, kept attributes gap, rest⟩ := by
  rw [List.append_assoc, List.append_assoc, List.cons_append]
  rcases hattributes.cases_head with rfl | ⟨c, more, rfl, hc, hpassed⟩
  · cases gap with
    | nil =>
      have hname : name? (name ++ '/' :: '>' :: rest) = some (name, '/' :: '>' :: rest) :=
        h.name?_append (by rintro _ ⟨⟩; exact Or.inr rfl)
      rw [List.nil_append, List.nil_append, tag?_of_name? hname]
      rfl
    | cons c gap =>
      obtain ⟨hc, hgap⟩ := List.forall_mem_cons.mp hgap
      have hname : name? (name ++ c :: (gap ++ '/' :: '>' :: rest)) =
          some (name, c :: (gap ++ '/' :: '>' :: rest)) :=
        h.name?_append (by rintro _ ⟨⟩; exact Or.inl hc)
      rw [List.nil_append, List.cons_append, tag?_of_name? hname, if_pos hc, attributes?_blanks hgap]
      rfl
  · have hname : name? (name ++ c :: (more ++ (gap ++ '/' :: '>' :: rest))) =
        some (name, c :: (more ++ (gap ++ '/' :: '>' :: rest))) :=
      h.name?_append (by rintro _ ⟨⟩; exact Or.inl hc)
    rw [List.cons_append, tag?_of_name? hname, if_pos hc, hpassed, attributes?_blanks hgap]
    simp [kept]

/-- After text without an angle bracket, a self-closing component tag is written out with all its
attributes, whatever their quotes hold, and the text after it is gone through on its own. Where there are no
attributes, the first blank stays. -/
theorem expand_selfClosing {pre name attributes gap : String} (hpre : '<' ∉ pre.toList)
    (hname : IsComponentName name.toList) (hattributes : IsAttributes attributes.toList)
    (hgap : ∀ c ∈ gap.toList, isBlank c) (rest : String) :
    expand (pre ++ "<" ++ name ++ attributes ++ gap ++ "/>" ++ rest) =
      pre ++ "<" ++ name ++ (if attributes = "" then String.ofList (gap.toList.take 1) else attributes) ++
        "></" ++ name ++ ">" ++ expand rest := by
  have htag := hname.tag?_eq hattributes hgap rest.toList
  have hexpand : expandFrom 0 ('<' :: name.toList ++ attributes.toList ++ gap.toList ++
      '/' :: '>' :: rest.toList) =
        (⟨name.toList, kept attributes.toList gap.toList, rest.toList⟩ : Tag).written ++
          expandFrom 0 rest.toList :=
    expandFrom_of_tag? htag
  have hsource : (pre ++ "<" ++ name ++ attributes ++ gap ++ "/>" ++ rest).toList =
      pre.toList ++ ('<' :: name.toList ++ attributes.toList ++ gap.toList ++
        '/' :: '>' :: rest.toList) := by
    simp
  have hkept : (if attributes = "" then String.ofList (gap.toList.take 1) else attributes).toList =
      kept attributes.toList gap.toList := by
    unfold kept
    by_cases hnone : attributes = ""
    · rw [if_pos hnone, if_pos (String.toList_eq_nil_iff.mpr hnone), String.toList_ofList]
    · rw [if_neg hnone, if_neg fun hnil => hnone (String.toList_eq_nil_iff.mp hnil)]
  rw [← String.toList_inj, expand, expand, hsource, expandFrom_append_of_not_mem hpre, hexpand]
  simp [Tag.written, hkept]

/-- Quotes of both kinds that hold ends of tags, an attribute without a value, and more tags behind. -/
theorem expand_quoted_ends :
    '<' ∉ "1 > 0 ".toList ∧ IsComponentName "Nav.Bar2".toList ∧
      IsAttributes " :to=\x27a/>\"\x27\n\n@x.y=\"<b/>\" v-else".toList ∧ (∀ c ∈ "\n ".toList, isBlank c) ∧
      expand "1 > 0 <Nav.Bar2 :to=\x27a/>\"\x27\n\n@x.y=\"<b/>\" v-else\n /><br/><x- />/>" =
        "1 > 0 <Nav.Bar2 :to=\x27a/>\"\x27\n\n@x.y=\"<b/>\" v-else></Nav.Bar2><br/><x- ></x->/>" := by
  have hpre : '<' ∉ "1 > 0 ".toList := by decide
  have hname : IsComponentName "Nav.Bar2".toList :=
    Or.inl ⟨'N', "av.Bar2".toList, by decide, by decide, List.all_eq_true.mp rfl⟩
  have hgap : ∀ c ∈ "\n ".toList, isBlank c := List.all_eq_true.mp rfl
  have hattributes : IsAttributes " :to=\x27a/>\"\x27\n\n@x.y=\"<b/>\" v-else".toList := by
    have hto : IsAttribute " :to=\x27a/>\"\x27".toList :=
      ⟨" ".toList, ":to".toList, "=\x27a/>\"\x27".toList, by decide, by decide,
        List.all_eq_true.mp rfl, by decide, List.all_eq_true.mp rfl,
        @IsValue.quoted '\'' "a/>\"".toList (Or.inr rfl) (by decide)⟩
    have hevent : IsAttribute "\n\n@x.y=\"<b/>\"".toList :=
      ⟨"\n\n".toList, "@x.y".toList, "=\"<b/>\"".toList, by decide, by decide,
        List.all_eq_true.mp rfl, by decide, List.all_eq_true.mp rfl,
        @IsValue.quoted '"' "<b/>".toList (Or.inl rfl) (by decide)⟩
    have helse : IsAttribute " v-else".toList :=
      ⟨" ".toList, "v-else".toList, [], by decide, by decide,
        List.all_eq_true.mp rfl, by decide, List.all_eq_true.mp rfl, .absent⟩
    exact .cons hto (.cons hevent (.cons helse .nil))
  refine ⟨hpre, hname, hattributes, hgap, ?_⟩
  have hexpand := expand_selfClosing hpre hname hattributes hgap "<br/><x- />/>"
  have hrest : expand "<br/><x- />/>" = "<br/><x- ></x->/>" := by decide +kernel
  rw [hrest, if_neg (by decide)] at hexpand
  exact hexpand

end ComponentTags.SelfClosing
