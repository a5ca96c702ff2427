import ComponentTags.Proofs.Html.RootRules
import ComponentTags.Proofs.Html.Siblings

/-!
# Every document has a root

Before the root only document types, blanks and comments are taken, and nothing is open (`Waiting`). Any
other token puts the root in, and nothing takes it out again; so between two tokens a builder is waiting or
has its root (`Sound`). The end of the document is such a token: whatever the source is, the root is among
the trees that it is read as (`exists_root_of_parse`).
-/

namespace ComponentTags.Html

/-! ## The root in the document -/

namespace Document

variable {d : Document} {r : NodeId} {kind : Kind}

theorem size_insert (d : Document) (place : Place) (node : NodeId) :
    (d.insert place node).cells.size = d.cells.size := by
  unfold insert update
  dsimp only
  rw [Array.size_modify, Array.size_modify]

/-- A root that is put into the document itself is held by it. -/
theorem holdsRoot_append (hroot : root < d.cells.size) (hkind : kind.IsRoot) :
    (d.append root kind).HoldsRoot d.cells.size := by
  obtain ⟨top, htop⟩ : ∃ top, d.cells[root]? = some top := ⟨_, Array.getElem?_eq_getElem hroot⟩
  unfold append
  constructor
  · refine ⟨{ top with children := top.children.push d.cells.size }, ?_, Array.mem_push_self⟩
    rw [Array.getElem?_push, Array.size_modify, if_neg (Nat.ne_of_lt hroot), Array.getElem?_modify,
      if_pos rfl, htop]
    rfl
  · refine ⟨{ kind, parent := some root }, ?_, hkind⟩
    rw [Array.getElem?_push, Array.size_modify, if_pos rfl]

/-- The root that a document holds is among its trees. -/
theorem HoldsRoot.exists_tree (h : d.HoldsRoot r) :
    ∃ attributes contents children,
      Tree.element { tag := "html" } attributes contents children ∈ d.trees := by
  obtain ⟨depth, hdepth⟩ := Nat.exists_eq_add_of_lt h.root_lt
  obtain ⟨⟨top, htop, hchild⟩, cell, hcell, attributes, contents, hkind⟩ := h
  have hnode : r ∈ (d.children root).toList := by
    unfold children
    rw [htop]
    exact Array.mem_toList_iff.mpr hchild
  have htree : ∃ held below, d.cells[r]?.bind (d.treeOf (d.treesTo (root + depth))) =
      some (Tree.element { tag := "html" } attributes held below) := by
    rw [hcell, Option.bind_some, treeOf, hkind]
    exact ⟨_, _, rfl⟩
  obtain ⟨held, below, htree⟩ := htree
  unfold trees
  rw [hdepth, treesTo_succ]
  exact ⟨attributes, held, below, List.mem_filterMap.mpr ⟨r, hnode, htree⟩⟩

end Document

/-! ## Before the root -/

namespace Builder

variable {b : Builder} {token : Token}

/-- Nothing has been put in but what may come before the root. -/
structure Waiting (b : Builder) : Prop where
  mode : b.mode = .initial ∨ b.mode = .beforeHtml
  opened : b.opened = []
  head : b.head = none
  document : Document.root < b.document.cells.size

theorem waiting_start : Waiting {} :=
  ⟨Or.inl rfl, rfl, rfl, by decide⟩

theorem Waiting.insertNode (h : b.Waiting) (kind : Kind) (place : Place) :
    Waiting { b with document := (b.document.create kind).1.insert place (b.document.create kind).2 } := by
  refine ⟨h.mode, h.opened, h.head, ?_⟩
  rw [Document.size_insert]
  show _ < (b.document.cells.push _).size
  rw [Array.size_push]
  exact Nat.lt_succ_of_lt h.document

/-- The root is put into the document itself. -/
theorem Waiting.openRoot (h : b.Waiting) (attributes : List Attribute) :
    (b.openRoot attributes).Rooted b.document.cells.size := by
  have hplace : b.place = .inside Document.root := by
    unfold place
    rw [h.opened]
    rfl
  have hopen : b.openElement { tag := "html" } attributes =
      ({ b with
          document := b.document.append Document.root (.element { tag := "html" } attributes none)
          opened := ⟨b.document.cells.size, { tag := "html" }, false⟩ :: b.opened },
        b.document.cells.size) :=
    openElement_eq rfl (by decide) hplace h.document
  unfold Builder.openRoot openTag
  rw [hopen, h.opened]
  refine ⟨Document.holdsRoot_append h.document ⟨attributes, none, rfl⟩, ⟨?_, ?_⟩, ?_⟩
  · intro e he
    obtain rfl := List.mem_singleton.mp he
    exact Nat.ne_of_gt h.document
  · exact List.pairwise_singleton _ _
  · intro node hnode
    rw [h.head] at hnode
    cases hnode

/-- What a builder is between two tokens. -/
inductive Sound (b : Builder) : Prop where
  | waiting : b.Waiting → Sound b
  | rooted {r : NodeId} : b.Rooted r → Sound b

/-- A builder that is waiting looks at the token again before the root, or puts the root in, or it has taken
a blank or a comment. -/
theorem Waiting.rule (h : b.Waiting) (token : Token) : (b.rule b.mode token).1.Sound := by
  rcases h.mode with hmode | hmode
  · have hagain : Waiting { b with oldStyle := true, mode := .beforeHtml } :=
      ⟨Or.inr rfl, h.opened, h.head, h.document⟩
    rw [hmode]
    show (b.initialRule token).1.Sound
    unfold initialRule
    split
    · exact .waiting (h.insertNode _ _)
    · split
      · exact .waiting h
      · exact .waiting hagain
    · exact .waiting hagain
  · have hopened : Sound ((b.openRoot []).againIn .beforeHead).1 := .rooted ((h.openRoot []).againIn _)
    rw [hmode]
    show (b.beforeHtmlRule token).1.Sound
    unfold beforeHtmlRule
    dsimp only
    split
    · exact .waiting (h.insertNode _ _)
    · split
      · exact .waiting h
      · exact hopened
    · split
      · exact .rooted ((h.openRoot _).withMode _)
      · exact hopened
    · split
      · exact hopened
      · exact .waiting h
    · exact hopened

theorem Waiting.isForeign (h : b.Waiting) (token : Token) : b.isForeign token = false := by
  unfold Builder.isForeign
  rw [h.opened]
  rfl

theorem Sound.applyIn (h : b.Sound) (token : Token) (rounds : Nat) : (b.applyIn token rounds).1.Sound := by
  induction rounds generalizing b with
  | zero => exact h
  | succ rounds ih =>
    cases h with
    | rooted h => exact .rooted (h.applyIn token (rounds + 1))
    | waiting h =>
      have hround := h.rule token
      unfold Builder.applyIn
      rw [h.isForeign, if_neg Bool.false_ne_true]
      generalize b.rule b.mode token = outcome at hround
      obtain ⟨after, verdict⟩ := outcome
      cases verdict with
      | done => exact hround
      | again => exact ih hround
      | text mode => exact hround

theorem Sound.withSkipNewline (h : b.Sound) (skipNewline : Bool) : Sound { b with skipNewline } := by
  cases h with
  | waiting h => exact .waiting ⟨h.mode, h.opened, h.head, h.document⟩
  | rooted h => exact .rooted h

theorem Sound.insertDoctype (h : b.Sound) (oldStyle : Bool) :
    Sound { b.insertDoctype with mode := .beforeHtml, oldStyle } := by
  cases h with
  | waiting h =>
    have hinserted := h.insertNode .doctype (.inside Document.root)
    exact .waiting ⟨Or.inr rfl, h.opened, h.head, hinserted.document⟩
  | rooted h => exact .rooted (h.insertDoctype.withMode .beforeHtml)

/-- Between two tokens a builder is waiting or has its root. -/
theorem Sound.take (h : b.Sound) (token : Token) : (b.take token).1.Sound := by
  have hnext : Sound { b with skipNewline := false } := h.withSkipNewline false
  unfold Builder.take
  dsimp only
  split
  · exact hnext
  · split
    · exact hnext.insertDoctype _
    · exact hnext
  · split
    · exact hnext
    · exact hnext.applyIn _ _
  · exact hnext.applyIn _ _

theorem Waiting.applyIn_finish_of_beforeHtml (h : b.Waiting) (hmode : b.mode = .beforeHtml) (rounds : Nat) :
    ∃ r, (b.applyIn .finish (rounds + 1)).1.Rooted r := by
  have hrule : b.rule b.mode .finish = (b.openRoot []).againIn .beforeHead := by
    rw [hmode]
    rfl
  rw [applyIn_again (h.isForeign .finish) hrule]
  exact ⟨_, ((h.openRoot []).againIn .beforeHead).applyIn _ _⟩

/-- The end of the document is no blank, so the root is put in at last. -/
theorem Waiting.applyIn_finish (h : b.Waiting) (rounds : Nat) :
    ∃ r, (b.applyIn .finish (rounds + 2)).1.Rooted r := by
  rcases h.mode with hmode | hmode
  · have hrule : b.rule b.mode .finish = ({ b with oldStyle := true, mode := .beforeHtml }, .again) := by
      rw [hmode]
      rfl
    have hagain : Waiting { b with oldStyle := true, mode := .beforeHtml } :=
      ⟨Or.inr rfl, h.opened, h.head, h.document⟩
    rw [applyIn_again (h.isForeign .finish) hrule]
    exact hagain.applyIn_finish_of_beforeHtml rfl rounds
  · exact h.applyIn_finish_of_beforeHtml hmode (rounds + 1)

theorem Sound.take_finish (h : b.Sound) : ∃ r, (b.take .finish).1.Rooted r := by
  have hnext : Sound { b with skipNewline := false } := h.withSkipNewline false
  show ∃ r, (Builder.applyIn { b with skipNewline := false } .finish (2 * b.opened.length + 14 + 2)).1.Rooted r
  cases hnext with
  | waiting h => exact h.applyIn_finish _
  | rooted h => exact ⟨_, h.applyIn _ _⟩

end Builder

/-! ## Reading -/

namespace Reader

variable {r : Reader}

theorem builder_take (r : Reader) (token : Token) : (r.take token).builder = (r.builder.take token).1 := by
  unfold take
  dsimp only
  split
  · next htake => rw [htake]
  · next htake => rw [htake]

theorem sound_foldl_take (h : r.builder.Sound) (tokens : List Token) :
    (tokens.foldl take r).builder.Sound := by
  induction tokens generalizing r with
  | nil => exact h
  | cons token tokens ih =>
    apply ih
    rw [builder_take]
    exact h.take token

theorem sound_step (h : r.builder.Sound) (c : Char) : (r.step c).builder.Sound := by
  unfold step
  split
  · exact h
  · unfold read
    split
    · exact h
    · have hread : ∀ lexer afterReturn,
          Builder.Sound ({ r.advance c with lexer, afterReturn } : Reader).builder :=
        fun _ _ => h
      exact sound_foldl_take (hread _ _) _

theorem sound_foldl_step (h : r.builder.Sound) (cs : List Char) : (cs.foldl step r).builder.Sound := by
  induction cs generalizing r with
  | nil => exact h
  | cons c cs ih => exact ih (sound_step h c)

theorem finish_holdsRoot (h : r.builder.Sound) : ∃ node, r.finish.HoldsRoot node := by
  have hread := sound_foldl_take h r.lexer.atEnd
  obtain ⟨node, hrooted⟩ := hread.take_finish
  unfold finish
  dsimp only
  rw [List.foldl_append, List.foldl_cons, List.foldl_nil, builder_take]
  exact ⟨node, hrooted.document⟩

end Reader

/-- Whatever the source is, it is read as a document with a root. -/
theorem exists_root_of_parse (source : String) :
    ∃ attributes contents children,
      Tree.element { tag := "html" } attributes contents children ∈ parse source := by
  have hread : (source.toList.foldl Reader.step {}).builder.Sound :=
    Reader.sound_foldl_step (.waiting Builder.waiting_start) source.toList
  obtain ⟨node, hroot⟩ := Reader.finish_holdsRoot hread
  exact hroot.exists_tree

end ComponentTags.Html
