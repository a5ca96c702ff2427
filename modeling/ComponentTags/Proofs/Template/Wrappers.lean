import ComponentTags.Proofs.Html.RootedDocument
import ComponentTags.Proofs.Template.Flatten
import ComponentTags.Template

/-!
# When the wrappers stay

A document is always read with a root, a head and a body, and they are at the top of the template exactly if
`<html` occurs in the source in any letter case (`wrapper_at_top_iff`). What comes behind those five
characters is not looked at. So a component whose name only starts like the root's has the root put into the
template that the source did not write (`wrapper_of_longer_name`).
-/

namespace ComponentTags

open Html (Tree)
open Text

/-! ## Occurrences of the root's tag -/

theorem Text.occursIn_iff_infix {word cs : List Char} : occursIn word cs ↔ word <:+: cs := by
  induction cs with
  | nil => rw [occursIn, List.isEmpty_iff, List.infix_nil]
  | cons c cs ih => rw [occursIn, Bool.or_eq_true, List.isPrefixOf_iff_prefix, ih, List.infix_cons_iff]

/-- These characters come behind `<html` somewhere in a source, in any letter case. -/
def AfterRoot (source : String) (after : List Char) : Prop :=
  ∃ before word, source.toList = before ++ word ++ after ∧ word.map Char.toLower = "<html".toList

theorem writesRoot_iff {source : String} : writesRoot source ↔ ∃ after, AfterRoot source after := by
  rw [writesRoot, occursIn_iff_infix]
  constructor
  · rintro ⟨front, back, h⟩
    obtain ⟨cs, after, hsource, hcs, -⟩ := List.map_eq_append_iff.mp h.symm
    obtain ⟨before, word, rfl, -, hword⟩ := List.map_eq_append_iff.mp hcs
    exact ⟨after, before, word, hsource, hword⟩
  · rintro ⟨after, before, word, hsource, hword⟩
    rw [hsource, List.map_append, List.map_append, hword]
    exact ⟨_, _, rfl⟩

/-- There are as many places to look at as there are characters. -/
theorem AfterRoot.exists_eq_drop {source : String} {after : List Char} (h : AfterRoot source after) :
    ∃ n < source.toList.length, ((source.toList.drop n).take 5).map Char.toLower = "<html".toList ∧
      after = source.toList.drop (n + 5) := by
  obtain ⟨before, word, hsource, hword⟩ := h
  have hlength : word.length = 5 := by
    rw [← List.length_map (f := Char.toLower), hword]
    rfl
  refine ⟨before.length, ?_, ?_, ?_⟩
  · rw [hsource, List.length_append, List.length_append]
    omega
  · rw [hsource, List.append_assoc, List.drop_left, List.take_left' hlength, hword]
  · have hfront : (before ++ word).length = before.length + 5 := by
      rw [List.length_append, hlength]
    rw [hsource, List.drop_left' hfront]

/-! ## Flattening -/

/-- Whether a node is a root, a head or a body. -/
def Node.isWrapper : Node → Bool
  | .element e _ => isWrapperTag e.tag
  | .text _ _ | .comment _ _ => false

theorem any_isWrapper_ofTree (tree : Tree) :
    (Node.ofTree tree).any Node.isWrapper = tree.name?.any (isWrapperTag ·.tag) := by
  cases tree with
  | element name attributes contents children =>
    rw [Node.ofTree, List.any_cons, List.any_nil, Bool.or_false]
    rfl
  | text value =>
    rw [Node.ofTree]
    split
    · rfl
    · rfl
  | comment value => rfl
  | doctype => rfl
  | instruction => rfl

mutual

/-- Wrappers that give way are not at the top, and nor are those right below them. -/
theorem any_isWrapper_collect (tree : Tree) : (Node.collect false tree).any Node.isWrapper = false := by
  cases tree with
  | element name attributes contents children =>
    rw [Node.collect, Bool.not_false, Bool.and_true]
    split
    case isTrue => exact any_isWrapper_collectAll children
    case isFalse hname =>
      rw [any_isWrapper_ofTree]
      exact Bool.eq_false_iff.mpr hname
  | text value => rw [Node.collect, any_isWrapper_ofTree, Tree.name?, Option.any_none]
  | comment value => rfl
  | doctype => rfl
  | instruction => rfl

theorem any_isWrapper_collectAll (trees : List Tree) :
    (Node.collectAll false trees).any Node.isWrapper = false := by
  cases trees with
  | nil => rfl
  | cons tree rest =>
    rw [Node.collectAll, List.any_append, any_isWrapper_collect tree, any_isWrapper_collectAll rest,
      Bool.or_false]

end

/-- If the source writes the root, each wrapper of the document is at the top. -/
theorem any_isWrapper_of_mem {name : Html.Name} {attributes : List Html.Attribute}
    {contents children trees : List Tree} (h : .element name attributes contents children ∈ trees)
    (hname : isWrapperTag name.tag) : (Node.collectAll true trees).any Node.isWrapper := by
  induction trees with
  | nil => cases h
  | cons tree rest ih =>
    rw [Node.collectAll, List.any_append, Bool.or_eq_true]
    rcases List.mem_cons.mp h with rfl | hrest
    · left
      rw [Node.collect, Bool.not_true, Bool.and_false, if_neg Bool.false_ne_true, any_isWrapper_ofTree]
      exact hname
    · exact Or.inr (ih hrest)

/-- There is a root, a head or a body at the top of a template exactly if `<html` occurs in the source, in
any letter case and whatever comes behind it. -/
theorem wrapper_at_top_iff (source : String) :
    (Template.parse source).nodes.any Node.isWrapper ↔ ∃ after, AfterRoot source after := by
  have hroot := Html.exists_root_of_parse (SelfClosing.expand source)
  rw [← writesRoot_iff]
  unfold Template.parse
  dsimp only
  generalize Html.parse (SelfClosing.expand source) = trees at hroot
  cases writesRoot source with
  | false => rw [any_isWrapper_collectAll trees]
  | true =>
    obtain ⟨attributes, contents, children, hmem⟩ := hroot
    rw [any_isWrapper_of_mem hmem (by decide)]

/-- A component whose name starts like the root's has the root put into the template: it is the only place
where `<html` occurs, and a longer name comes behind it. -/
theorem wrapper_of_longer_name :
    ¬(∀ source : String,
      (∀ after, AfterRoot source after → ∃ c rest, after = c :: rest ∧ (c.isAlphanum ∨ c = '-')) →
        (Template.parse source).nodes.any Node.isWrapper = false) ∧
      listAll 0 (Template.parse "<html-viewer/>").nodes =
        [⟨0, .element { tag := "html", location := ⟨1, 1⟩ }⟩,
          ⟨1, .element { tag := "head", location := ⟨1, 1⟩ }⟩,
          ⟨1, .element { tag := "body", location := ⟨1, 1⟩ }⟩,
          ⟨2, .element { tag := "html-viewer", location := ⟨1, 1⟩ }⟩] := by
  refine ⟨?_, by decide +kernel⟩
  intro h
  have hplaces : ∀ n < 14, (("<html-viewer/>".toList.drop n).take 5).map Char.toLower = "<html".toList →
      "<html-viewer/>".toList.drop (n + 5) = '-' :: "viewer/>".toList := by
    decide
  have hnone : (Template.parse "<html-viewer/>").nodes.any Node.isWrapper = false := by
    apply h
    intro after hafter
    obtain ⟨n, hn, hword, rfl⟩ := hafter.exists_eq_drop
    exact ⟨'-', "viewer/>".toList, hplaces n hn hword, Or.inr rfl⟩
  have hwrapper : (Template.parse "<html-viewer/>").nodes.any Node.isWrapper = true := by decide +kernel
  exact Bool.false_ne_true (hnone.symm.trans hwrapper)

end ComponentTags
