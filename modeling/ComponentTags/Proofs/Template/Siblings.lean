import ComponentTags.Proofs.Html.Siblings
import ComponentTags.Proofs.Html.Tags
import ComponentTags.Proofs.Template.Expansion

/-!
# Components side by side

A component that closes itself takes in nothing of what follows it. The tags are written out before the
text is read as HTML; there each start tag is followed by its end tag, so the elements become children of
the body one after the other, and the parts of the document around them give way
(`Template.nodes_parse_selfClosingRow`).
-/

namespace ComponentTags

namespace SelfClosing

open Text

variable {name after : List Char}

/-! ## A row of tags -/

/-- A tag with this name that closes itself, without anything in between. -/
def closed (name : List Char) : List Char :=
  '<' :: name ++ ['/', '>']

/-- The same tag written out. -/
def opened (name : List Char) : List Char :=
  '<' :: name ++ ['>', '<', '/'] ++ name ++ ['>']

/-- A tag that closes itself is written out, and what comes after it is gone through from the start. -/
theorem IsHyphenated.expandFrom_closed (h : IsHyphenated name) (after : List Char) :
    expandFrom 0 (closed name ++ after) = opened name ++ expandFrom 0 after := by
  have hname : IsComponentName name := Or.inr h
  have htag : tag? (closed name ++ after) = some ⟨name, [], after⟩ := by
    have hsource : closed name ++ after = '<' :: name ++ [] ++ [] ++ '/' :: '>' :: after := by simp [closed]
    rw [hsource, hname.tag?_eq .nil (List.forall_mem_nil _) after]
    rfl
  have hexpand : expandFrom 0 (closed name ++ after) =
      (⟨name, [], after⟩ : Tag).written ++ expandFrom 0 after :=
    expandFrom_of_tag? htag
  rw [hexpand]
  simp [Tag.written, opened]

/-- A row of such tags is written out one by one. -/
theorem expand_row {names : List (List Char)} (h : ∀ name ∈ names, IsHyphenated name) :
    expandFrom 0 (names.flatMap closed) = names.flatMap opened := by
  induction names with
  | nil => rfl
  | cons name names ih =>
    obtain ⟨hname, hnames⟩ := List.forall_mem_cons.mp h
    rw [List.flatMap_cons, List.flatMap_cons, hname.expandFrom_closed, ih hnames]

/-! ## The root -/

theorem occursIn_append_of_not_mem {first : Char} {word front : List Char} (h : first ∉ front) :
    occursIn (first :: word) (front ++ after) = occursIn (first :: word) after := by
  induction front with
  | nil => rfl
  | cons c front ih =>
    rw [List.mem_cons, not_or] at h
    have hne : (first == c) = false := beq_false_of_ne h.1
    rw [List.cons_append, occursIn, List.isPrefixOf, hne, Bool.false_and, Bool.false_or, ih h.2]

/-- A hyphenated name whose casing starts with `html` starts with it as it is written. -/
theorem IsHyphenated.prefix_of_prefix_toLower (h : IsHyphenated name)
    (hstarts : "html".toList <+: (name ++ after).map Char.toLower) : "html".toList <+: name := by
  obtain ⟨first, front, back, rfl, hfirst, hfront, hback⟩ := h
  have hlower : (first :: front ++ ['-']).map Char.toLower = first :: front ++ ['-'] := by
    refine (List.map_congr_left fun c hc => ?_).trans (List.map_id _)
    rw [List.mem_append, List.mem_cons, List.mem_singleton] at hc
    rcases hc with (rfl | hc) | rfl
    · exact toLower_of_not_isUpper (not_isUpper_of_isLowerNameChar (isLowerNameChar_of_isLower hfirst))
    · exact toLower_of_not_isUpper (not_isUpper_of_isLowerNameChar (hfront c hc))
    · rfl
  have hword : first :: front ++ ['-'] <+: (first :: front ++ '-' :: back ++ after).map Char.toLower := by
    refine ⟨(back ++ after).map Char.toLower, ?_⟩
    rw [← hlower]
    simp
  -- The hyphen is not among the four letters, so these come before it.
  rcases List.prefix_or_prefix_of_prefix hstarts hword with hhead | hall
  · refine hhead.trans ⟨back, ?_⟩
    simp
  · have hmem : '-' ∈ "html".toList := hall.subset (by simp)
    exact absurd hmem (by decide)

/-- The tag of a hyphenated name that starts otherwise does not start like the root's. -/
theorem IsHyphenated.occursIn_closed (h : IsHyphenated name) (hroot : ¬"html".toList <+: name)
    (after : List Char) :
    occursIn "<html".toList ((closed name ++ after).map Char.toLower) =
      occursIn "<html".toList (after.map Char.toLower) := by
  have hhere : "html".toList.isPrefixOf ((name ++ (['/', '>'] ++ after)).map Char.toLower) = false := by
    rw [Bool.eq_false_iff, ne_eq, List.isPrefixOf_iff_prefix]
    exact fun hstarts => hroot (h.prefix_of_prefix_toLower hstarts)
  have hbehind : '<' ∉ (name ++ ['/', '>']).map Char.toLower := by
    rw [List.map_append, List.mem_append, List.mem_map]
    rintro (⟨c, hc, hlower⟩ | hend)
    · exact toLower_ne_of_isHyphenatedNameChar (h.isHyphenatedNameChar c hc) hlower
    · exact absurd hend (by decide)
  calc occursIn "<html".toList ((closed name ++ after).map Char.toLower)
      = ("html".toList.isPrefixOf ((name ++ (['/', '>'] ++ after)).map Char.toLower) ||
          occursIn "<html".toList ((name ++ (['/', '>'] ++ after)).map Char.toLower)) := by
        rw [closed, List.append_assoc]
        rfl
    _ = occursIn "<html".toList
          ((name ++ ['/', '>']).map Char.toLower ++ after.map Char.toLower) := by
        rw [hhere, Bool.false_or, ← List.append_assoc, List.map_append]
    _ = occursIn "<html".toList (after.map Char.toLower) := occursIn_append_of_not_mem hbehind

theorem not_occursIn_row {names : List (List Char)} (h : ∀ name ∈ names, IsHyphenated name)
    (hroot : ∀ name ∈ names, ¬"html".toList <+: name) :
    occursIn "<html".toList ((names.flatMap closed).map Char.toLower) = false := by
  induction names with
  | nil => rfl
  | cons name names ih =>
    obtain ⟨hname, hnames⟩ := List.forall_mem_cons.mp h
    obtain ⟨hnot, hnots⟩ := List.forall_mem_cons.mp hroot
    rw [List.flatMap_cons, hname.occursIn_closed hnot, ih hnames hnots]

end SelfClosing

open Html SelfClosing

/-! ## Reading the row -/

/-- A name in lower case. -/
def lowered (name : List Char) : String :=
  String.ofList (name.map Char.toLower)

namespace SelfClosing.IsHyphenated

variable {name : List Char}

theorem exists_eq_cons (h : IsHyphenated name) :
    ∃ first cs, name = first :: cs ∧ first.isAlpha := by
  obtain ⟨first, front, back, rfl, hfirst, -, -⟩ := h
  refine ⟨first, front ++ '-' :: back, rfl, ?_⟩
  show (first.isUpper || first.isLower) = true
  rw [hfirst, Bool.or_true]

theorem isNameChar (h : IsHyphenated name) : ∀ c ∈ name, Reader.IsNameChar c := by
  intro c hc
  have hchar := h.isHyphenatedNameChar c hc
  exact Text.ascii_induction (P := fun c => SelfClosing.isHyphenatedNameChar c → Reader.IsNameChar c)
    (by decide) (toNat_lt_of_isHyphenatedNameChar hchar) hchar

theorem hyphen_mem_lowered (h : IsHyphenated name) : '-' ∈ (lowered name).toList := by
  obtain ⟨first, front, back, rfl, -, -, -⟩ := h
  rw [lowered, String.toList_ofList]
  exact List.mem_map.mpr ⟨'-', by simp, rfl⟩

end SelfClosing.IsHyphenated

namespace Html.Reader

variable {r : Reader} {b between after : Builder} {name : List Char}

/-- A tag written out is taken as a start tag and an end tag. -/
theorem At.opened (hr : r.At .data b) (h : IsHyphenated name)
    (hstart : b.take (.startTag { name := lowered name }) = (between, none))
    (hend : between.take (.endTag { name := lowered name }) = (after, none)) :
    ((opened name).foldl step r).At .data after := by
  have hchars := h.isNameChar
  obtain ⟨first, cs, rfl, hfirst⟩ := h.exists_eq_cons
  have hparts : SelfClosing.opened (first :: cs) =
      '<' :: (first :: cs ++ ['>']) ++ '<' :: '/' :: (first :: cs ++ ['>']) := by
    simp [SelfClosing.opened]
  rw [hparts, List.foldl_append]
  exact (hr.startTag hfirst hchars hstart).endTag hfirst hchars hend

/-- Each tag written out adds one element to those side by side. -/
theorem At.row {names : List (List Char)} (h : ∀ name ∈ names, IsHyphenated name) {before : List String}
    (hr : r.At .data (.behind before)) :
    ((names.flatMap SelfClosing.opened).foldl step r).At .data (.behind (before ++ names.map lowered)) := by
  -- Behind one more element the builder is as it was, so what comes before is left open.
  induction names generalizing r before with
  | nil =>
    rw [List.map_nil, List.append_nil]
    exact hr
  | cons name names ih =>
    obtain ⟨hname, hnames⟩ := List.forall_mem_cons.mp h
    have hhyphen := hname.hyphen_mem_lowered
    have hfirst : ((SelfClosing.opened name).foldl step r).At .data (.behind (before ++ [lowered name])) :=
      hr.opened hname (Builder.take_startTag hhyphen before) (Builder.take_endTag hhyphen before)
    have hrest := ih hnames hfirst
    rw [List.append_assoc, List.singleton_append, ← List.map_cons] at hrest
    rwa [List.flatMap_cons, List.foldl_append]

theorem At.finish_eq {names : List String} (hr : r.At .data (.behind names)) :
    r.finish = Document.siblings names := by
  have htake : (r.take .finish).builder = .behind names := by
    unfold take
    rw [hr.builder, Builder.take_finish]
  unfold finish
  rw [hr.lexer]
  exact congrArg Builder.document htake

/-- The document of a row of tags that are written out. -/
theorem parse_row {names : List (List Char)} (hne : names ≠ []) (h : ∀ name ∈ names, IsHyphenated name) :
    Html.parse (String.ofList (names.flatMap SelfClosing.opened)) =
      (Document.siblings (names.map lowered)).trees := by
  obtain ⟨name, names, rfl⟩ := List.exists_cons_of_ne_nil hne
  obtain ⟨hname, hnames⟩ := List.forall_mem_cons.mp h
  have hhyphen := hname.hyphen_mem_lowered
  have hstart : ({} : Reader).At .data {} := ⟨rfl, rfl, rfl⟩
  have hfirst : ((SelfClosing.opened name).foldl step {}).At .data (.behind [lowered name]) :=
    hstart.opened hname (Builder.take_startTag_first hhyphen) (Builder.take_endTag hhyphen [])
  have hrow := hfirst.row hnames
  unfold Html.parse
  rw [String.toList_ofList, List.flatMap_cons, List.foldl_append, hrow.finish_eq]
  rfl

end Html.Reader

/-! ## The nodes of a row -/

/-- The element that an element of the document stands for. -/
theorem collectAll_siblingTrees {names : List String} (h : ∀ name ∈ names, '-' ∈ name.toList) :
    Node.collectAll false (names.map Document.siblingTree) =
      names.map fun tag => .element { tag, location := templateLocation } [] := by
  induction names with
  | nil => rfl
  | cons name names ih =>
    obtain ⟨hname, hnames⟩ := List.forall_mem_cons.mp h
    have hstays : isWrapperTag name = false := contains_eq_false_of_hyphen (by decide) hname
    rw [List.map_cons, Node.collectAll, ih hnames, Document.siblingTree, Node.collect, hstays,
      Bool.false_and, if_neg Bool.false_ne_true]
    rfl

/-- The root, the head and the body give way to the elements. -/
theorem collectAll_siblings {names : List String} (h : ∀ name ∈ names, '-' ∈ name.toList) :
    Node.collectAll false (Document.siblings names).trees =
      names.map fun tag => .element { tag, location := templateLocation } [] := by
  have hwrapper : ∀ {tag : String} (children : List Tree), isWrapperTag tag = true →
      Node.collect false (.element { tag } [] [] children) = Node.collectAll false children := by
    intro tag children htag
    rw [Node.collect, htag, Bool.not_false, Bool.and_self, if_pos rfl]
  have hbody := collectAll_siblingTrees h
  rw [Document.trees_siblings]
  simp only [Node.collectAll, List.append_nil]
  rw [hwrapper _ (by decide)]
  simp only [Node.collectAll, List.append_nil]
  rw [hwrapper _ (by decide), hwrapper _ (by decide), hbody]
  simp only [Node.collectAll, List.nil_append]

/-! ## Templates -/

/-- Components that close themselves, in a row. -/
def selfClosingRow (names : List String) : String :=
  String.join (names.map fun name => "<" ++ name ++ "/>")

theorem toList_selfClosingRow (names : List String) :
    (selfClosingRow names).toList = (names.map String.toList).flatMap closed := by
  rw [selfClosingRow, String.toList_join, List.flatMap_map, List.flatMap_map]
  congr 1
  funext name
  simp [closed]

/-- Components that close themselves, with hyphenated names that do not start like the root's, are read as
elements side by side: each has its name in lower case, no attributes and nothing inside. -/
theorem Template.nodes_parse_selfClosingRow {names : List String} (hne : names ≠ [])
    (h : ∀ name ∈ names, IsHyphenated name.toList ∧ ¬"html".toList <+: name.toList) :
    (Template.parse (selfClosingRow names)).nodes =
      names.map fun name => .element {
        tag := String.ofList (name.toList.map Char.toLower)
        attributes := []
        location := templateLocation
        resolution := .plain } [] := by
  have hhyphenated : ∀ name ∈ names.map String.toList, IsHyphenated name :=
    List.forall_mem_map.mpr fun name hname => (h name hname).1
  have hroot : ∀ name ∈ names.map String.toList, ¬"html".toList <+: name :=
    List.forall_mem_map.mpr fun name hname => (h name hname).2
  have hlowered : ∀ tag ∈ (names.map String.toList).map lowered, '-' ∈ tag.toList :=
    List.forall_mem_map.mpr fun name hname => (hhyphenated name hname).hyphen_mem_lowered
  have hwritten : writesRoot (selfClosingRow names) = false := by
    rw [writesRoot, toList_selfClosingRow, not_occursIn_row hhyphenated hroot]
  have hexpand : expand (selfClosingRow names) =
      String.ofList ((names.map String.toList).flatMap SelfClosing.opened) := by
    rw [expand, toList_selfClosingRow, expand_row hhyphenated]
  have hmap : names.map String.toList ≠ [] := fun hnil => hne (List.map_eq_nil_iff.mp hnil)
  -- No root is written, so the wrappers that the document has give way.
  unfold Template.parse
  rw [hwritten, hexpand, Html.Reader.parse_row hmap hhyphenated]
  dsimp only
  rw [collectAll_siblings hlowered, List.map_map, List.map_map]
  rfl

/-- Names with a capital, a digit and a hyphen at the end; the last holds `html`, but not at its head. -/
theorem Template.nodes_parse_three_components :
    (Template.parse "<my-list/><x-A1-/><a-html/>").nodes = [
      .element { tag := "my-list", location := ⟨1, 1⟩ } [],
      .element { tag := "x-a1-", location := ⟨1, 1⟩ } [],
      .element { tag := "a-html", location := ⟨1, 1⟩ } []] := by
  have h : ∀ name ∈ ["my-list", "x-A1-", "a-html"],
      IsHyphenated name.toList ∧ ¬"html".toList <+: name.toList := by
    intro name hname
    simp only [List.mem_cons, List.not_mem_nil, or_false] at hname
    rcases hname with rfl | rfl | rfl
    · refine ⟨⟨'m', ['y'], "list".toList, rfl, rfl, ?_, ?_⟩, by decide⟩
      · exact List.all_eq_true.mp rfl
      · exact List.all_eq_true.mp rfl
    · refine ⟨⟨'x', [], "A1-".toList, rfl, rfl, ?_, ?_⟩, by decide⟩
      · exact List.all_eq_true.mp rfl
      · exact List.all_eq_true.mp rfl
    · refine ⟨⟨'a', [], "html".toList, rfl, rfl, ?_, ?_⟩, by decide⟩
      · exact List.all_eq_true.mp rfl
      · exact List.all_eq_true.mp rfl
  have hrow : selfClosingRow ["my-list", "x-A1-", "a-html"] = "<my-list/><x-A1-/><a-html/>" := by
    decide
  have hnodes := Template.nodes_parse_selfClosingRow (by decide) h
  rw [hrow] at hnodes
  rw [hnodes]
  rfl

end ComponentTags
