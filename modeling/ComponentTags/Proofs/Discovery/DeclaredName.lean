import ComponentTags.Discovery.DeclaredName
import Mathlib.Data.List.Infix
import Mathlib.Data.List.TakeWhile

/-!
# Where a declared name comes from

A component file is searched for its first script block, and the body of the block for the first `name`
option. The block starts at the first start tag and ends at the first end tag behind it, so nothing else of
the file counts (`scriptBody?_append`). A place in the body has the form of the option if a word starts there
and a text in quotes comes that is closed and not empty. The leftmost of these places decides
(`nameOption?_eq_some_iff`), and one with an empty or unfinished value is passed over.
-/

namespace ComponentTags.Discovery

open Text

variable {word front cs rest value : List Char}

/-! ## Words in some casing -/

/-- A lowercase word occurs in a text, in some casing. -/
def Occurs (word cs : List Char) : Prop :=
  word <:+: cs.map foldChar

instance (word cs : List Char) : Decidable (Occurs word cs) :=
  inferInstanceAs (Decidable (word <:+: cs.map foldChar))

theorem Occurs.cons {c : Char} (h : Occurs word cs) : Occurs word (c :: cs) :=
  List.infix_cons h

theorem dropFolded?_append (hfront : front.map foldChar = word) :
    dropFolded? word (front ++ rest) = some rest := by
  induction front generalizing word with
  | nil =>
    obtain rfl := hfront
    rfl
  | cons c front ih =>
    obtain rfl := hfront
    rw [List.cons_append, List.map_cons, dropFolded?, if_pos (beq_self_eq_true _), ih rfl]

theorem prefix_of_dropFolded? (h : dropFolded? word cs = some rest) : word <+: cs.map foldChar := by
  induction word generalizing cs with
  | nil => exact List.nil_prefix
  | cons w word ih =>
    cases cs with
    | nil => cases h
    | cons c cs =>
      rw [dropFolded?] at h
      split at h
      · next hc =>
        rw [List.map_cons, eq_of_beq hc]
        exact List.cons_prefix_cons.mpr ⟨rfl, ih h⟩
      · cases h

/-- A word that only its first character occurs in starts before another occurrence of this character only
if it is over by then. -/
theorem prefix_of_prefix_append {first : Char} {after : List Char} (hfirst : first ∉ word)
    (hfront : front ≠ []) (h : first :: word <+: front ++ first :: after) : first :: word <+: front := by
  rcases List.prefix_or_prefix_of_prefix h (List.prefix_append front (first :: after)) with hword | hlonger
  · exact hword
  · -- the word would go on behind the front with its first character again
    obtain ⟨back, hback⟩ := hlonger
    cases back with
    | nil => exact ⟨[], by rw [List.append_nil, ← hback, List.append_nil]⟩
    | cons d back =>
      obtain ⟨c, front, rfl⟩ := List.exists_cons_of_ne_nil hfront
      rw [← hback, List.prefix_append_right_inj, List.cons_prefix_cons] at h
      obtain ⟨rfl, -⟩ := h
      rw [List.cons_append] at hback
      exact absurd ((List.cons.inj hback).2 ▸ by simp) hfirst

/-- Before the place where it stands, a tag that occurs nowhere in the text before does not start. -/
theorem dropFolded?_eq_none {tag : List Char} (htag : '<' ∉ tag) (hfront : front ≠ [])
    (h : ¬Occurs ('<' :: tag) front) : dropFolded? ('<' :: tag) (front ++ '<' :: rest) = none := by
  rw [Option.eq_none_iff_forall_ne_some]
  intro after hafter
  have hprefix := prefix_of_dropFolded? hafter
  rw [List.map_append, List.map_cons, show foldChar '<' = '<' from rfl] at hprefix
  exact h (prefix_of_prefix_append htag (by simpa using hfront) hprefix).isInfix

/-! ## The first script block -/

theorem after?_append {mark : Char} (h : mark ∉ front) : after? mark (front ++ mark :: rest) = some rest := by
  induction front with
  | nil => rw [List.nil_append, after?, if_pos (beq_self_eq_true mark)]
  | cons c front ih =>
    rw [List.mem_cons, not_or] at h
    rw [List.cons_append, after?, if_neg (by simpa using Ne.symm h.1), ih h.2]

/-- The text before the first occurrence of a tag, whatever comes behind it. -/
theorem beforeFolded?_append (tag : List Char) (htag : '<' ∉ tag) (hlower : tag.map foldChar = tag)
    (h : ¬Occurs ('<' :: tag) front) :
    beforeFolded? ('<' :: tag) (front ++ ('<' :: tag) ++ rest) = some front := by
  have hword : ('<' :: tag).map foldChar = '<' :: tag := by
    rw [List.map_cons, hlower]
    rfl
  induction front with
  | nil =>
    rw [List.nil_append, List.cons_append, beforeFolded?, ← List.cons_append, dropFolded?_append hword]
    rfl
  | cons c front ih =>
    have hnone : dropFolded? ('<' :: tag) (c :: front ++ '<' :: (tag ++ rest)) = none :=
      dropFolded?_eq_none htag (List.cons_ne_nil c front) h
    rw [List.append_assoc, List.cons_append, List.cons_append, beforeFolded?, ← List.cons_append, hnone,
      Option.isSome_none, if_neg Bool.false_ne_true, ← List.cons_append, ← List.append_assoc,
      ih fun hoccurs => h hoccurs.cons]
    rfl

/-- A script block that starts here, with this text in its start tag. -/
theorem scriptAt?_eq_some {attributes body : List Char} (hend : '>' ∉ attributes)
    (hword : ∀ c ∈ attributes.head?, isWord c = false) (hbody : ¬Occurs "</script>".toList body) :
    scriptAt? ("<script".toList ++ (attributes ++ '>' :: (body ++ "</script>".toList ++ rest))) =
      some body := by
  have hopen : dropFolded? "<script".toList
      ("<script".toList ++ (attributes ++ '>' :: (body ++ "</script>".toList ++ rest))) =
        some (attributes ++ '>' :: (body ++ "</script>".toList ++ rest)) :=
    dropFolded?_append rfl
  have hboundary :
      (attributes ++ '>' :: (body ++ "</script>".toList ++ rest)).head?.any isWord = false := by
    cases attributes with
    | nil => rfl
    | cons c attributes => exact hword c rfl
  have hclose : beforeFolded? "</script>".toList (body ++ "</script>".toList ++ rest) = some body :=
    beforeFolded?_append "/script>".toList (by decide) rfl hbody
  unfold scriptAt?
  rw [hopen, Option.bind_eq_bind, Option.bind_some, hboundary, if_neg Bool.false_ne_true,
    after?_append hend]
  exact hclose

/-- The first script block is found behind text in which no other starts. -/
theorem scriptBody?_append {body block : List Char} (hfront : ¬Occurs "<script".toList front)
    (hblock : scriptAt? ('<' :: block) = some body) : scriptBody? (front ++ '<' :: block) = some body := by
  induction front with
  | nil =>
    rw [List.nil_append, scriptBody?, hblock]
    rfl
  | cons c front ih =>
    have hnone : scriptAt? (c :: front ++ '<' :: block) = none := by
      have hskip : dropFolded? "<script".toList (c :: front ++ '<' :: block) = none :=
        dropFolded?_eq_none (show '<' ∉ "script".toList by decide) (List.cons_ne_nil c front) hfront
      rw [scriptAt?, hskip]
      rfl
    rw [List.cons_append] at hnone ⊢
    rw [scriptBody?, hnone, ih fun hoccurs => hfront hoccurs.cons]
    rfl

/-! ## The first option -/

/-- A text between quotes that starts here. -/
def IsQuoted (cs value : List Char) : Prop :=
  ∃ quote after, cs = quote :: value ++ quote :: after ∧ (quote = '"' ∨ quote = '\'') ∧ value ≠ [] ∧
    quote ∉ value

/-- The option `name` starts here, with this value. -/
def IsNameOption (cs value : List Char) : Prop :=
  ∃ gap gap' quoted, cs = "name".toList ++ gap ++ ':' :: gap' ++ quoted ∧ (∀ c ∈ gap, isBlank c) ∧
    (∀ c ∈ gap', isBlank c) ∧ IsQuoted quoted value

theorem takeWhile_bne_append {mark : Char} (h : mark ∉ front) :
    (front ++ mark :: rest).takeWhile (· != mark) = front := by
  have hfront : ∀ c ∈ front, (c != mark) = true := by
    intro c hc
    rw [bne_iff_ne]
    rintro rfl
    exact h hc
  rw [List.takeWhile_append_of_pos hfront, List.takeWhile_cons_of_neg (by simp), List.append_nil]

theorem quotedText?_eq_some_iff : quotedText? cs = some value ↔ IsQuoted cs value := by
  constructor
  · intro h
    cases cs with
    | nil => cases h
    | cons quote cs =>
      rw [quotedText?] at h
      split at h
      · next hquote =>
        dsimp only at h
        split at h
        · cases h
        · next hfull =>
          rw [Bool.or_eq_true, not_or, List.isEmpty_iff, beq_iff_eq] at hfull
          have hmem : quote ∈ cs := by
            by_contra hnone
            have hself : cs.takeWhile (· != quote) = cs :=
              List.takeWhile_eq_self_iff.mpr fun c hc => bne_iff_ne.mpr (ne_of_mem_of_not_mem hc hnone)
            exact hfull.2 (congrArg List.length hself)
          obtain ⟨text, after, rfl, htext⟩ := List.eq_append_cons_of_mem hmem
          rw [takeWhile_bne_append htext] at h hfull
          obtain rfl := Option.some.inj h
          exact ⟨quote, after, rfl, by simpa using hquote, hfull.1, htext⟩
      · cases h
  · rintro ⟨quote, after, rfl, hquote, hne, hmem⟩
    have htext : (value ++ quote :: after).takeWhile (· != quote) = value := takeWhile_bne_append hmem
    have hclosed : (value.isEmpty || value.length == (value ++ quote :: after).length) = false := by
      simp [hne]
    have hmark : (quote == '"' || quote == '\'') = true := by simpa using hquote
    rw [List.cons_append, quotedText?, if_pos hmark, htext]
    dsimp only
    rw [hclosed, if_neg Bool.false_ne_true]

theorem dropWord?_eq_some_iff : dropWord? word cs = some rest ↔ cs = word ++ rest := by
  induction word generalizing cs with
  | nil => rw [dropWord?, Option.some.injEq, List.nil_append]
  | cons w word ih =>
    cases cs with
    | nil => simp [dropWord?]
    | cons c cs =>
      rw [dropWord?, List.cons_append, List.cons.injEq]
      by_cases hc : c = w
      · rw [if_pos (beq_iff_eq.mpr hc), ih]
        simp only [hc, true_and]
      · rw [if_neg (by simpa using hc)]
        simp only [hc, false_and, reduceCtorEq]

/-- Blanks are dropped before a character that is none. -/
theorem dropWhile_isBlank_append {gap : List Char} {c : Char} (hgap : ∀ c ∈ gap, isBlank c)
    (hc : isBlank c = false) : (gap ++ c :: rest).dropWhile isBlank = c :: rest := by
  rw [List.dropWhile_append_of_pos hgap, List.dropWhile_cons_of_neg (by simp [hc])]

theorem nameAt?_eq_some_iff : nameAt? cs = some value ↔ IsNameOption cs value := by
  unfold nameAt?
  rw [Option.bind_eq_bind, Option.bind_eq_some_iff]
  constructor
  · rintro ⟨behind, hbehind, hvalue⟩
    rw [dropWord?_eq_some_iff] at hbehind
    split at hvalue
    · next quoted hcolon =>
      refine ⟨behind.takeWhile isBlank, quoted.takeWhile isBlank, quoted.dropWhile isBlank, ?_,
        fun c => List.mem_takeWhile_imp, fun c => List.mem_takeWhile_imp, quotedText?_eq_some_iff.mp hvalue⟩
      rw [List.append_assoc, List.cons_append, List.takeWhile_append_dropWhile, ← hcolon, List.append_assoc,
        List.takeWhile_append_dropWhile, hbehind]
    · cases hvalue
  · rintro ⟨gap, gap', quoted, rfl, hgap, hgap', hquoted⟩
    refine ⟨gap ++ ':' :: (gap' ++ quoted), ?_, ?_⟩
    · rw [dropWord?_eq_some_iff]
      simp
    · obtain ⟨quote, after, rfl, hquote, hne, hmem⟩ := hquoted
      have hblank : isBlank quote = false := by rcases hquote with rfl | rfl <;> rfl
      rw [dropWhile_isBlank_append hgap rfl, List.cons_append]
      show quotedText? ((gap' ++ quote :: (value ++ quote :: after)).dropWhile isBlank) = some value
      rw [dropWhile_isBlank_append hgap' hblank, quotedText?_eq_some_iff]
      exact ⟨quote, after, rfl, hquote, hne, hmem⟩

/-- A text has the option `name` with this value behind this front, where a word starts: no word character
comes right before. If the front is empty, `inWord` tells whether one does. -/
def NamedBehind (inWord : Bool) (cs front value : List Char) : Prop :=
  ∃ here, cs = front ++ here ∧ (front.getLast?.map isWord).getD inWord = false ∧ IsNameOption here value

/-- The option with this value comes before all others. -/
def FirstNamed (inWord : Bool) (cs value : List Char) : Prop :=
  ∃ front, NamedBehind inWord cs front value ∧
    ∀ front' value', NamedBehind inWord cs front' value' → front.length ≤ front'.length

variable {inWord : Bool} {c : Char}

theorem namedBehind_nil_iff : NamedBehind inWord cs [] value ↔ inWord = false ∧ IsNameOption cs value := by
  constructor
  · rintro ⟨here, rfl, hword, hoption⟩
    exact ⟨hword, hoption⟩
  · rintro ⟨hword, hoption⟩
    exact ⟨cs, rfl, hword, hoption⟩

theorem namedBehind_cons_iff {d : Char} :
    NamedBehind inWord (c :: cs) (d :: front) value ↔ c = d ∧ NamedBehind (isWord c) cs front value := by
  have hlast : ((d :: front).getLast?.map isWord).getD inWord =
      (front.getLast?.map isWord).getD (isWord d) := by
    rw [List.getLast?_cons, Option.map_some, Option.getD_some, Option.getD_map]
  unfold NamedBehind
  simp only [hlast, List.cons_append, List.cons.injEq]
  constructor
  · rintro ⟨here, ⟨rfl, rfl⟩, hword, hoption⟩
    exact ⟨rfl, here, rfl, hword, hoption⟩
  · rintro ⟨rfl, here, rfl, hword, hoption⟩
    exact ⟨here, ⟨rfl, rfl⟩, hword, hoption⟩

theorem not_namedBehind_of_nil : ¬NamedBehind inWord [] front value := by
  rintro ⟨here, h, -, gap, gap', quoted, rfl, -⟩
  simp at h

/-- The option right at the start, if there is one. -/
theorem namedHere_eq_some_iff :
    (if inWord then none else nameAt? cs) = some value ↔ NamedBehind inWord cs [] value := by
  rw [namedBehind_nil_iff, ← nameAt?_eq_some_iff]
  cases inWord <;> simp

theorem nameOption?_eq_none_iff :
    nameOption? inWord cs = none ↔ ∀ front value, ¬NamedBehind inWord cs front value := by
  induction cs generalizing inWord with
  | nil => exact ⟨fun _ _ _ => not_namedBehind_of_nil, fun _ => rfl⟩
  | cons c cs ih =>
    have hhere : (if inWord then none else nameAt? (c :: cs)) = none ↔
        ∀ value, ¬NamedBehind inWord (c :: cs) [] value := by
      simp only [Option.eq_none_iff_forall_ne_some, ne_eq, namedHere_eq_some_iff]
    rw [nameOption?, Option.orElse_eq_orElse, Option.orElse_eq_or, Option.or_eq_none_iff, hhere, ih]
    constructor
    · rintro ⟨hnow, hlater⟩ front value h
      cases front with
      | nil => exact hnow value h
      | cons d front => exact hlater front value (namedBehind_cons_iff.mp h).2
    · intro h
      exact ⟨h [], fun front value hbehind => h (c :: front) value (namedBehind_cons_iff.mpr ⟨rfl, hbehind⟩)⟩

/-- The search gives the value of the first option. -/
theorem nameOption?_eq_some_iff : nameOption? inWord cs = some value ↔ FirstNamed inWord cs value := by
  induction cs generalizing inWord with
  | nil =>
    refine ⟨nofun, ?_⟩
    rintro ⟨front, hbehind, -⟩
    exact absurd hbehind not_namedBehind_of_nil
  | cons c cs ih =>
    rw [nameOption?, Option.orElse_eq_orElse, Option.orElse_eq_or]
    cases hhere : (if inWord then none else nameAt? (c :: cs)) with
    | some text =>
      rw [Option.some_or]
      have hnow := namedHere_eq_some_iff.mp hhere
      constructor
      · rintro ⟨⟩
        exact ⟨[], hnow, fun _ _ _ => Nat.zero_le _⟩
      · rintro ⟨front, hbehind, hfirst⟩
        obtain rfl := List.eq_nil_of_length_eq_zero (Nat.le_zero.mp (hfirst [] text hnow))
        rw [← hhere, namedHere_eq_some_iff]
        exact hbehind
    | none =>
      have hlater : ∀ front value, NamedBehind inWord (c :: cs) front value → ∃ behind,
          front = c :: behind ∧ NamedBehind (isWord c) cs behind value := by
        intro front value h
        cases front with
        | nil =>
          rw [← namedHere_eq_some_iff, hhere] at h
          cases h
        | cons d behind =>
          obtain ⟨rfl, hbehind⟩ := namedBehind_cons_iff.mp h
          exact ⟨behind, rfl, hbehind⟩
      rw [Option.none_or, ih]
      constructor
      · rintro ⟨front, hbehind, hfirst⟩
        refine ⟨c :: front, namedBehind_cons_iff.mpr ⟨rfl, hbehind⟩, fun front' value' h => ?_⟩
        obtain ⟨behind, rfl, h'⟩ := hlater front' value' h
        exact Nat.succ_le_succ (hfirst behind value' h')
      · rintro ⟨front, hfront, hfirst⟩
        obtain ⟨behind, rfl, hbehind⟩ := hlater front value hfront
        refine ⟨behind, hbehind, fun front' value' h => ?_⟩
        exact Nat.le_of_succ_le_succ (hfirst (c :: front') value' (namedBehind_cons_iff.mpr ⟨rfl, h⟩))

theorem FirstNamed.ne_nil (h : FirstNamed inWord cs value) : value ≠ [] := by
  obtain ⟨front, ⟨here, -, -, gap, gap', quoted, -, -, -, quote, after, -, -, hne, -⟩, -⟩ := h
  exact hne

theorem declaredName?_eq {source : String} {body : List Char} (h : scriptBody? source.toList = some body) :
    declaredName? source = (nameOption? false body).map String.ofList := by
  unfold declaredName?
  rw [h]
  rfl

theorem declaredName?_ne_empty (source : String) : declaredName? source ≠ some "" := by
  intro h
  cases hbody : scriptBody? source.toList with
  | none =>
    unfold declaredName? at h
    rw [hbody] at h
    cases h
  | some body =>
    rw [declaredName?_eq hbody, Option.map_eq_some_iff] at h
    obtain ⟨value, hvalue, hempty⟩ := h
    exact (nameOption?_eq_some_iff.mp hvalue).ne_nil (String.ofList_eq_empty_iff.mp hempty)

/-- The first script block alone decides which name a file declares.

For each body in which `</script>` does not occur there is one answer for all files that have it as the body
of their first script block, whatever comes before the block, stands in its start tag and comes behind it:
the value of the first option `name` in the body, and none if there is no such option. No file declares the
empty name. -/
theorem declaredName?_of_first_script {body : String} (hbody : ¬Occurs "</script>".toList body.toList) :
    ∃ answer : Option String,
      (∀ before attributes after : String, ¬Occurs "<script".toList before.toList → '>' ∉ attributes.toList →
        (∀ c ∈ attributes.toList.head?, isWord c = false) →
          declaredName? (before ++ "<script" ++ attributes ++ ">" ++ body ++ "</script>" ++ after) =
            answer) ∧
      (∀ name : String, answer = some name ↔ FirstNamed false body.toList name.toList) ∧
      (answer = none ↔ ∀ front value, ¬NamedBehind false body.toList front value) ∧
      ∀ source : String, declaredName? source ≠ some "" := by
  refine ⟨(nameOption? false body.toList).map String.ofList, ?_, ?_, ?_, declaredName?_ne_empty⟩
  · intro before attributes after hbefore hend hword
    have hsource : (before ++ "<script" ++ attributes ++ ">" ++ body ++ "</script>" ++ after).toList =
        before.toList ++ ("<script".toList ++
          (attributes.toList ++ '>' :: (body.toList ++ "</script>".toList ++ after.toList))) := by
      simp
    apply declaredName?_eq
    rw [hsource]
    exact scriptBody?_append hbefore (scriptAt?_eq_some hend hword hbody)
  · intro name
    rw [← nameOption?_eq_some_iff, Option.map_eq_some_iff]
    constructor
    · rintro ⟨value, hvalue, rfl⟩
      rwa [String.toList_ofList]
    · intro h
      exact ⟨name.toList, h, String.ofList_toList⟩
  · rw [Option.map_eq_none_iff, nameOption?_eq_none_iff]

/-- A word that ends in `name`, an option without a value, and two more. -/
def namedTwice : String :=
  "rename: \x27no\x27, name: \x27\x27, name\n:\t\"tree-item\", name: \"other\""

theorem declaredName?_namedTwice :
    ¬Occurs "</script>".toList namedTwice.toList ∧
      FirstNamed false namedTwice.toList "tree-item".toList ∧
      declaredName? ("" ++ "<script" ++ "" ++ ">" ++ namedTwice ++ "</script>" ++ "") = some "tree-item" ∧
      declaredName? ("<b>name: \"before\"</script>" ++ "<script" ++ " name: \"inside\"" ++ ">" ++
        namedTwice ++ "</script>" ++ "<script>name: \"behind\"</script>") = some "tree-item" := by
  have hbody : ¬Occurs "</script>".toList namedTwice.toList := by decide +kernel
  have hbare : declaredName? ("" ++ "<script" ++ "" ++ ">" ++ namedTwice ++ "</script>" ++ "") =
      some "tree-item" := by
    decide +kernel
  obtain ⟨answer, hall, hsome, -, -⟩ := declaredName?_of_first_script hbody
  have hanswer : answer = some "tree-item" :=
    (hall "" "" "" (by decide) (by decide) (by rintro _ ⟨⟩)).symm.trans hbare
  refine ⟨hbody, (hsome _).mp hanswer, hbare, ?_⟩
  have hblank : ∀ c ∈ " name: \"inside\"".toList.head?, isWord c = false := by
    rintro _ ⟨⟩
    rfl
  rw [← hanswer]
  exact hall "<b>name: \"before\"</script>" " name: \"inside\"" "<script>name: \"behind\"</script>"
    (by decide +kernel) (by decide) hblank

end ComponentTags.Discovery
