import ComponentTags.Html.Formatting
import Mathlib.Data.List.TakeWhile

/-!
# The root stays in the document

Once the root of a document has been put in, it is never taken out again: nodes are taken from their places
and given other parents only if they stand below it. What has to be known for that is `Keeps`: the root is a
child of the document, no open element but the outermost is the root, and none is the document itself. The
operations that build a document all preserve it; the adoption of a block by a formatting element does
because the block is open inside of that element, and so is not the outermost.
-/

namespace ComponentTags.Html

/-! ## The document -/

/-- The element that holds the document, with any attributes. -/
def Kind.IsRoot (kind : Kind) : Prop :=
  ∃ attributes contents, kind = .element { tag := "html" } attributes contents

/-- The nodes that may be moved: neither the document nor its root. -/
def Below (r node : NodeId) : Prop :=
  node ≠ Document.root ∧ node ≠ r

namespace Document

/-- A node is the root element, and a child of the document. -/
structure HoldsRoot (d : Document) (r : NodeId) : Prop where
  child : ∃ top, d.cells[root]? = some top ∧ r ∈ top.children
  element : ∃ cell, d.cells[r]? = some cell ∧ cell.kind.IsRoot

variable {d : Document} {r node : NodeId} {kind : Kind} {place : Place}

theorem HoldsRoot.root_lt (h : d.HoldsRoot r) : root < d.cells.size := by
  obtain ⟨top, htop, -⟩ := h.child
  exact (Array.getElem?_eq_some_iff.mp htop).1

theorem HoldsRoot.lt (h : d.HoldsRoot r) : r < d.cells.size := by
  obtain ⟨cell, hcell, -⟩ := h.element
  exact (Array.getElem?_eq_some_iff.mp hcell).1

/-- A number that has not been given yet is that of neither. -/
theorem HoldsRoot.below_of_le (h : d.HoldsRoot r) (hnode : d.cells.size ≤ node) : Below r node := by
  have hroot : root < node := Nat.lt_of_lt_of_le h.root_lt hnode
  have hlt : r < node := Nat.lt_of_lt_of_le h.lt hnode
  exact ⟨Nat.ne_of_gt hroot, Nat.ne_of_gt hlt⟩

/-! ### Changing a node -/

theorem getElem?_update (d : Document) (node i : NodeId) (f : Cell → Cell) :
    (d.update node f).cells[i]? = if node = i then d.cells[i]?.map f else d.cells[i]? :=
  Array.getElem?_modify

/-- A node may be changed in any way in which the document keeps the root as a child, and the root stays an
element of its name. -/
theorem HoldsRoot.update {f : Cell → Cell} (h : d.HoldsRoot r)
    (hchildren : node = root → ∀ cell, r ∈ cell.children → r ∈ (f cell).children)
    (hkind : node = r → ∀ cell, cell.kind.IsRoot → (f cell).kind.IsRoot) :
    (d.update node f).HoldsRoot r := by
  obtain ⟨⟨top, htop, hchild⟩, cell, hcell, helement⟩ := h
  constructor
  · rw [getElem?_update, htop]
    split
    case isTrue hnode => exact ⟨f top, rfl, hchildren hnode top hchild⟩
    case isFalse => exact ⟨top, rfl, hchild⟩
  · rw [getElem?_update, hcell]
    split
    case isTrue hnode => exact ⟨f cell, rfl, hkind hnode cell helement⟩
    case isFalse => exact ⟨cell, rfl, helement⟩

theorem HoldsRoot.setParent (h : d.HoldsRoot r) (node : NodeId) (parent : Option NodeId) :
    (d.update node fun cell => { cell with parent }).HoldsRoot r :=
  h.update (fun _ _ hchild => hchild) (fun _ _ hkind => hkind)

theorem HoldsRoot.addAttributes (h : d.HoldsRoot r) (node : NodeId) (attributes : List Attribute) :
    (d.addAttributes node attributes).HoldsRoot r := by
  apply h.update
  · intro _ cell hchild
    dsimp only
    split
    · exact hchild
    · exact hchild
  · rintro - cell ⟨old, contents, hkind⟩
    dsimp only
    rw [hkind]
    exact ⟨_, contents, rfl⟩

/-! ### Adding nodes -/

theorem HoldsRoot.create (h : d.HoldsRoot r) (kind : Kind) : (d.create kind).1.HoldsRoot r := by
  have hroot := h.root_lt
  have hlt := h.lt
  obtain ⟨⟨top, htop, hchild⟩, cell, hcell, helement⟩ := h
  constructor
  · refine ⟨top, ?_, hchild⟩
    show (d.cells.push _)[root]? = _
    rw [Array.getElem?_push, if_neg (Nat.ne_of_lt hroot), htop]
  · refine ⟨cell, ?_, helement⟩
    show (d.cells.push _)[r]? = _
    rw [Array.getElem?_push, if_neg (Nat.ne_of_lt hlt), hcell]

theorem HoldsRoot.createElement (h : d.HoldsRoot r) (name : Name) (attributes : List Attribute) :
    (d.createElement name attributes).1.HoldsRoot r ∧ Below r (d.createElement name attributes).2 := by
  unfold Document.createElement
  split
  · have hcontents : (d.create .fragment).1.HoldsRoot r := h.create .fragment
    exact ⟨hcontents.create _, hcontents.below_of_le (Nat.le_refl _)⟩
  · exact ⟨h.create _, h.below_of_le (Nat.le_refl _)⟩

theorem mem_insertIdxIfInBounds {nodes : Array NodeId} {new : NodeId} {index : Nat} (h : r ∈ nodes) :
    r ∈ nodes.insertIdxIfInBounds index new := by
  unfold Array.insertIdxIfInBounds
  split
  · exact Array.mem_insertIdx.mpr (Or.inr h)
  · exact h

theorem HoldsRoot.insert (h : d.HoldsRoot r) (place : Place) (node : NodeId) :
    (d.insert place node).HoldsRoot r := by
  unfold Document.insert
  apply (h.setParent node _).update
  · intro _ cell hchild
    exact mem_insertIdxIfInBounds hchild
  · intro _ _ hkind
    exact hkind

theorem HoldsRoot.insertChar (h : d.HoldsRoot r) (place : Place) (c : Char) :
    (d.insertChar place c).HoldsRoot r := by
  unfold Document.insertChar
  split
  · apply h.update
    · intro _ _ hchild
      exact hchild
    · rintro - cell ⟨attributes, contents, hkind⟩
      exact ⟨attributes, contents, by rw [hkind]; rfl⟩
  · exact (h.create _).insert place _

/-! ### Moving nodes -/

theorem HoldsRoot.detach (h : d.HoldsRoot r) (hnode : node ≠ r) : (d.detach node).HoldsRoot r := by
  unfold Document.detach
  split
  · exact h
  · apply HoldsRoot.setParent
    apply h.update
    · intro _ cell hchild
      exact (Array.mem_erase_of_ne hnode.symm).mpr hchild
    · intro _ _ hkind
      exact hkind

theorem HoldsRoot.moveChildren {source : NodeId} (h : d.HoldsRoot r) (hsource : source ≠ root)
    (target : NodeId) : (d.moveChildren source target).HoldsRoot r := by
  have hmoved : (Array.foldl (fun d node => d.update node fun cell => { cell with parent := some target }) d
      (d.children source)).HoldsRoot r := by
    rw [← Array.foldl_toList]
    generalize (d.children source).toList = moved
    induction moved generalizing d with
    | nil => exact h
    | cons node moved ih => exact ih (h.setParent node (some target))
  unfold Document.moveChildren
  dsimp only
  refine HoldsRoot.update (hmoved.update ?_ ?_) ?_ ?_
  · -- only the source loses children
    intro hroot
    exact absurd hroot hsource
  · intro _ _ hkind
    exact hkind
  · intro _ cell hchild
    exact Array.mem_append_left _ hchild
  · intro _ _ hkind
    exact hkind

end Document

/-! ## The open elements -/

namespace OpenElements

/-- None of the open elements is the document, and none but the outermost is its root. -/
structure Under (r : NodeId) (es : OpenElements) : Prop where
  ne_root : ∀ e ∈ es, e.node ≠ Document.root
  inner : es.Pairwise fun e _ => e.node ≠ r

variable {r node : NodeId} {e : Entry} {es es' front outer : OpenElements}

theorem Under.sublist (h : Under r es) (hsub : es'.Sublist es) : Under r es' :=
  ⟨fun e he => h.ne_root e (hsub.subset he), h.inner.sublist hsub⟩

theorem Under.cons (h : Under r es) (he : Below r e.node) : Under r (e :: es) :=
  ⟨List.forall_mem_cons.mpr ⟨he.1, h.ne_root⟩, List.pairwise_cons.mpr ⟨fun _ _ => he.2, h.inner⟩⟩

theorem Under.append (h : Under r outer) (hfront : ∀ e ∈ front, Below r e.node) :
    Under r (front ++ outer) := by
  induction front with
  | nil => exact h
  | cons e front ih =>
    obtain ⟨he, hfront⟩ := List.forall_mem_cons.mp hfront
    exact (ih hfront).cons he

/-- What is open inside of another element may be moved. -/
theorem Under.below (h : Under r es) (hes : es = front ++ outer) (houter : outer ≠ []) (he : e ∈ front) :
    Below r e.node := by
  subst hes
  obtain ⟨around, houter⟩ := List.exists_mem_of_ne_nil outer houter
  constructor
  · exact h.ne_root e (List.mem_append_left outer he)
  · exact (List.pairwise_append.mp h.inner).2.2 e he around houter

/-! ### Closing elements -/

variable {p boundary : Name → Bool} {tag : String}

theorem closeWhile_sublist : (es.closeWhile p).Sublist es :=
  List.dropWhile_sublist _

theorem closeThrough_sublist : (es.closeThrough p).Sublist es :=
  (List.tail_sublist _).trans closeWhile_sublist

theorem closeTag_sublist : (es.closeTag tag).Sublist es :=
  closeThrough_sublist

theorem closeOpenParagraph_sublist : es.closeOpenParagraph.Sublist es := by
  unfold closeOpenParagraph
  split
  · exact closeTag_sublist
  · exact List.Sublist.refl es

theorem closeOther_sublist : (es.closeOther tag).Sublist es := by
  unfold closeOther
  dsimp only
  split
  · exact closeTag_sublist
  · exact List.Sublist.refl es

theorem remove_sublist : (es.remove node).Sublist es :=
  List.filter_sublist

/-- The body is open inside of the outermost element. -/
theorem Under.below_of_body? (h : Under r es) (hbody : es.body? = some node) : Below r node := by
  unfold body? at hbody
  split at hbody
  · next outermost body inner hes =>
    rw [List.reverse_eq_cons_iff] at hes
    split at hbody
    · obtain rfl := Option.some.inj hbody
      exact h.below hes (List.cons_ne_nil outermost []) (by simp)
    · cases hbody
  · cases hbody

end OpenElements

/-! ## The builder -/

/-- The document holds its root, and nothing that the rules may move is the root. -/
structure Keeps (r : NodeId) (d : Document) (es : OpenElements) (head : Option NodeId) : Prop where
  document : d.HoldsRoot r
  opened : OpenElements.Under r es
  head : ∀ node, head = some node → Below r node

namespace Builder

/-- The root has been put in, and stays where it is. -/
def Rooted (b : Builder) (r : NodeId) : Prop :=
  Keeps r b.document b.opened b.head

variable {b : Builder} {r : NodeId}

theorem Rooted.withMode (h : b.Rooted r) (mode : Mode) : Rooted { b with mode } r := h

theorem Rooted.againIn (h : b.Rooted r) (mode : Mode) : (b.againIn mode).1.Rooted r := h

/-- Closing elements moves nothing. -/
theorem Rooted.change {f : OpenElements → OpenElements} (h : b.Rooted r)
    (hf : (f b.opened).Sublist b.opened) : (b.change f).Rooted r :=
  ⟨h.document, h.opened.sublist hf, h.head⟩

theorem Rooted.closeCurrentElement (h : b.Rooted r) : (b.change List.tail).Rooted r :=
  h.change (List.tail_sublist _)

theorem Rooted.closeWhile (h : b.Rooted r) (p : Name → Bool) : (b.change (·.closeWhile p)).Rooted r :=
  h.change OpenElements.closeWhile_sublist

theorem Rooted.closeThrough (h : b.Rooted r) (p : Name → Bool) : (b.change (·.closeThrough p)).Rooted r :=
  h.change OpenElements.closeThrough_sublist

theorem Rooted.closeTag (h : b.Rooted r) (tag : String) : (b.change (·.closeTag tag)).Rooted r :=
  h.change OpenElements.closeTag_sublist

theorem Rooted.closeOther (h : b.Rooted r) (tag : String) : (b.change (·.closeOther tag)).Rooted r :=
  h.change OpenElements.closeOther_sublist

theorem Rooted.remove (h : b.Rooted r) (node : NodeId) : (b.change (·.remove node)).Rooted r :=
  h.change OpenElements.remove_sublist

/-! ### Inserting -/

theorem Rooted.insertChar (h : b.Rooted r) (c : Char) : (b.insertChar c).Rooted r :=
  ⟨h.document.insertChar _ c, h.opened, h.head⟩

theorem Rooted.insertCommentAt (h : b.Rooted r) (place : Place) (text : String) :
    (b.insertCommentAt place text).Rooted r :=
  ⟨(h.document.create _).insert place _, h.opened, h.head⟩

theorem Rooted.insertComment (h : b.Rooted r) (text : String) : (b.insertComment text).Rooted r :=
  h.insertCommentAt _ text

theorem Rooted.insertDoctype (h : b.Rooted r) : b.insertDoctype.Rooted r :=
  ⟨(h.document.create .doctype).insert (.inside Document.root) _, h.opened, h.head⟩

theorem Rooted.insertElement (h : b.Rooted r) (name : Name) (attributes : List Attribute) :
    (b.insertElement name attributes).1.Rooted r ∧ Below r (b.insertElement name attributes).2 := by
  obtain ⟨hdocument, hnew⟩ := h.document.createElement name attributes
  exact ⟨⟨hdocument.insert _ _, h.opened, h.head⟩, hnew⟩

theorem Rooted.openElement (h : b.Rooted r) (name : Name) (attributes : List Attribute) :
    (b.openElement name attributes).1.Rooted r ∧ Below r (b.openElement name attributes).2 := by
  obtain ⟨hinserted, hnew⟩ := h.insertElement name attributes
  exact ⟨⟨hinserted.document, hinserted.opened.cons hnew, hinserted.head⟩, hnew⟩

theorem Rooted.insertTag (h : b.Rooted r) (t : Tag) : (b.insertTag t).Rooted r :=
  (h.insertElement _ _).1

theorem Rooted.openTag (h : b.Rooted r) (t : Tag) : (b.openTag t).Rooted r :=
  (h.openElement _ _).1

theorem Rooted.openImplied (h : b.Rooted r) (tag : String) : (b.openImplied tag).Rooted r :=
  h.openTag { name := tag }

theorem Rooted.openRoot (h : b.Rooted r) (attributes : List Attribute) : (b.openRoot attributes).Rooted r :=
  h.openTag { name := "html", attributes }

theorem Rooted.mergeRoot (h : b.Rooted r) (t : Tag) : (b.mergeRoot t).Rooted r := by
  unfold Builder.mergeRoot
  split
  · exact h
  · exact ⟨h.document.addAttributes _ _, h.opened, h.head⟩

/-! ### Formatting -/

theorem Rooted.reopenEntry (h : b.Rooted r) (f : Formatting) : (b.reopenEntry f).Rooted r := by
  cases f with
  | marker => exact h
  | element node tag => exact (h.openElement { tag := tag.name } tag.attributes).1

theorem Rooted.reopenFormatting (h : b.Rooted r) : b.reopenFormatting.Rooted r := by
  unfold Builder.reopenFormatting
  dsimp only
  generalize b.formatting.takeWhile b.isLost = lost
  have hkept : Rooted { b with formatting := b.formatting.drop lost.length } r := h
  generalize ({ b with formatting := b.formatting.drop lost.length } : Builder) = kept at hkept
  induction lost with
  | nil => exact hkept
  | cons f lost ih => exact ih.reopenEntry f

theorem Rooted.openFormatting (h : b.Rooted r) (t : Tag) : (b.openFormatting t).Rooted r :=
  (h.openElement { tag := t.name } t.attributes).1

/-! ### Adoption -/

/-- What an adoption moves is below the root, and so is what stays open because of it. -/
structure Adoption.Rooted (a : Adoption) (r : NodeId) : Prop where
  builder : a.builder.Rooted r
  last : Below r a.last
  kept : ∀ e ∈ a.kept, Below r e.node

theorem Adoption.Rooted.pass {a : Adoption} (h : a.Rooted r) (e : Entry) : (a.pass e).Rooted r := by
  unfold Adoption.pass
  dsimp only
  split
  · exact ⟨h.builder, h.last, h.kept⟩
  · split
    · exact ⟨h.builder, h.last, h.kept⟩
    · next tag _ =>
      obtain ⟨hcreated, hcopy⟩ :=
        h.builder.document.createElement { tag := tag.name } tag.attributes
      generalize a.builder.document.createElement { tag := tag.name } tag.attributes = created
        at hcreated hcopy
      have hmoved := (hcreated.detach h.last.2).insert (.inside created.2) a.last
      refine ⟨⟨hmoved, h.builder.opened, h.builder.head⟩, hcopy, ?_⟩
      intro entry hentry
      rcases List.mem_append.mp hentry with hkept | hlast
      · exact h.kept entry hkept
      · obtain rfl := List.mem_singleton.mp hlast
        exact hcopy

theorem Adoption.Rooted.foldl_pass {a : Adoption} (h : a.Rooted r) (between : List Entry) :
    (between.foldl Adoption.pass a).Rooted r := by
  induction between generalizing a with
  | nil => exact h
  | cons e between ih => exact ih (h.pass e)

/-- A formatting element may be split around what is open inside of it. -/
theorem Rooted.split {inner between outer : OpenElements} {block : Entry} (h : b.Rooted r)
    (hinner : ∀ e ∈ inner, Below r e.node) (hblock : Below r block.node)
    (houter : OpenElements.Under r outer) (node : NodeId) (tag : Tag) :
    (b.split node tag inner block between outer).Rooted r := by
  have hstart : Adoption.Rooted { builder := b, last := block.node } r :=
    ⟨h, hblock, List.forall_mem_nil _⟩
  have hpassed := hstart.foldl_pass between
  unfold Builder.split
  generalize between.foldl Adoption.pass { builder := b, last := block.node } = a at hpassed
  dsimp only
  have hmoved := (hpassed.builder.document.detach hpassed.last.2).insert
    ((outer.head?.map a.builder.placeIn).getD (.inside Document.root)) a.last
  obtain ⟨hcreated, hcopy⟩ := hmoved.createElement { tag := tag.name } tag.attributes
  generalize ((a.builder.document.detach a.last).insert
    ((outer.head?.map a.builder.placeIn).getD (.inside Document.root)) a.last).createElement
    { tag := tag.name } tag.attributes = created at hcreated hcopy
  have hdocument := (hcreated.moveChildren hblock.1 created.2).insert (.inside block.node) created.2
  -- in front of what was open around the formatting element there are only blocks and copies
  have hfront : ∀ e ∈ inner ++ ⟨created.2, { tag := tag.name }, false⟩ :: block :: a.kept,
      Below r e.node :=
    List.forall_mem_append.mpr
      ⟨hinner, List.forall_mem_cons.mpr ⟨hcopy, List.forall_mem_cons.mpr ⟨hblock, hpassed.kept⟩⟩⟩
  exact ⟨hdocument, houter.append hfront, hpassed.builder.head⟩

/-- What is open inside of a node that is open may be moved. -/
theorem Rooted.below_of_mem_takeWhile {node : NodeId} {e : Entry} (h : b.Rooted r)
    (hopen : b.opened.has node) (he : e ∈ b.opened.takeWhile (·.node != node)) : Below r e.node := by
  refine h.opened.below List.takeWhile_append_dropWhile.symm ?_ he
  intro hnil
  obtain ⟨around, haround, hnode⟩ := List.any_eq_true.mp hopen
  have hother := List.dropWhile_eq_nil_iff.mp hnil around haround
  rw [bne, hnode] at hother
  exact absurd hother Bool.false_ne_true

theorem Rooted.closeFormattingIn (h : b.Rooted r) (name : String) (rounds : Nat) :
    (b.closeFormattingIn name rounds).Rooted r := by
  induction rounds generalizing b with
  | zero => exact h
  | succ rounds ih =>
    unfold Builder.closeFormattingIn
    split
    · exact h.closeOther name
    · next node tag _ =>
      split
      · exact h
      · next hopen =>
        split
        · exact h
        · -- the block is the outermost of what is open inside of the formatting element and moves with it
          dsimp only
          have hinside : ∀ e ∈ b.opened.takeWhile (·.node != node), Below r e.node :=
            fun e he => h.below_of_mem_takeWhile (by simpa using hopen) he
          generalize b.opened.takeWhile (·.node != node) = inside at hinside
          have houter : (b.opened.drop (inside.length + 1)).Sublist b.opened := List.drop_sublist _ _
          split
          · exact ⟨h.document, h.opened.sublist houter, h.head⟩
          · next block hblock =>
            apply ih
            apply h.split
            · intro e he
              exact hinside e (List.take_subset _ _ (List.dropLast_subset _ he))
            · exact hinside block (List.take_subset _ _ (List.mem_of_getLast? hblock))
            · exact h.opened.sublist houter

theorem Rooted.closeFormatting (h : b.Rooted r) (name : String) : (b.closeFormatting name).Rooted r := by
  unfold Builder.closeFormatting
  dsimp only
  split
  · exact h.closeCurrentElement
  · exact h.closeFormattingIn name 8

theorem Rooted.closeLink (h : b.Rooted r) : b.closeLink.Rooted r := by
  unfold Builder.closeLink
  split
  · exact h
  · have hclosed : (b.closeFormatting "a").Rooted r := h.closeFormatting "a"
    exact hclosed.remove _

end Builder

end ComponentTags.Html
