import ComponentTags.Element
import Mathlib.Data.List.Basic

/-!
# Forests as listings

A forest read from top to bottom: its nodes without their children, each with the number of elements it
stands in. Nothing about a forest is lost in its listing (`listAll_injective`), so two forests are the same
as soon as they are listed the same way.
-/

namespace ComponentTags

/-- A node without its children. -/
inductive Item where
  | element (element : Element)
  | text (value : String) (location : Location)
  | comment (value : String) (location : Location)
deriving DecidableEq, Repr

/-- A node as it is listed. -/
structure Listed where
  /-- How many elements the node stands in. -/
  depth : Nat
  item : Item
deriving DecidableEq, Repr

mutual

/-- Lists a node that stands in so many elements, and all below it. -/
def Node.list (depth : Nat) : Node → List Listed
  | .element e children => ⟨depth, .element e⟩ :: listAll (depth + 1) children
  | .text value location => [⟨depth, .text value location⟩]
  | .comment value location => [⟨depth, .comment value location⟩]

/-- Lists a forest, parents before children and left before right. -/
def listAll (depth : Nat) : List Node → List Listed
  | [] => []
  | node :: rest => node.list depth ++ listAll depth rest

end

theorem listAll_append (depth : Nat) (nodes more : List Node) :
    listAll depth (nodes ++ more) = listAll depth nodes ++ listAll depth more := by
  induction nodes with
  | nil => rfl
  | cons node rest ih => rw [List.cons_append, listAll, listAll, ih, List.append_assoc]

theorem listAll_singleton (depth : Nat) (node : Node) : listAll depth [node] = node.list depth := by
  rw [listAll, listAll, List.append_nil]

/-! ## Reading a listing back -/

/-- At the top of a listing stands a node of the listing's own depth. -/
theorem exists_listAll_cons (depth : Nat) (node : Node) (rest : List Node) :
    ∃ item below, listAll depth (node :: rest) = ⟨depth, item⟩ :: below := by
  cases node with
  | element e children => exact ⟨_, _, rfl⟩
  | text value location => exact ⟨_, _, rfl⟩
  | comment value location => exact ⟨_, _, rfl⟩

/-- Whether a listing goes on further out than at a depth, or not at all. -/
def Leaves (depth : Nat) (tail : List Listed) : Prop :=
  ∀ first, tail.head? = some first → first.depth < depth

theorem leaves_nil (depth : Nat) : Leaves depth [] := by
  intro first hfirst
  cases hfirst

theorem leaves_listAll_append {depth : Nat} {nodes : List Node} {tail : List Listed}
    (h : Leaves depth tail) : Leaves (depth + 1) (listAll depth nodes ++ tail) := by
  intro first hfirst
  cases nodes with
  | nil => exact Nat.lt_succ_of_lt (h first hfirst)
  | cons node rest =>
    obtain ⟨item, below, heq⟩ := exists_listAll_cons depth node rest
    rw [heq, List.cons_append, List.head?_cons, Option.some.injEq] at hfirst
    rw [← hfirst]
    exact Nat.lt_succ_self depth

theorem not_leaves_listAll_cons {depth : Nat} {node : Node} {rest : List Node}
    {tail : List Listed} : ¬Leaves depth (listAll depth (node :: rest) ++ tail) := by
  intro h
  obtain ⟨item, below, heq⟩ := exists_listAll_cons depth node rest
  rw [heq] at h
  exact Nat.lt_irrefl depth (h ⟨depth, item⟩ rfl)

/-- Where a listing ends is known from the depths, so it can be told from what follows it. -/
theorem listAll_append_inj {depth : Nat} {nodes nodes' : List Node} {tail tail' : List Listed}
    (htail : Leaves depth tail) (htail' : Leaves depth tail')
    (h : listAll depth nodes ++ tail = listAll depth nodes' ++ tail') :
    nodes = nodes' ∧ tail = tail' := by
  match nodes, nodes' with
  | [], [] => exact ⟨rfl, h⟩
  | [], node' :: rest' =>
    rw [listAll, List.nil_append] at h
    exact absurd (h ▸ htail) not_leaves_listAll_cons
  | node :: rest, [] =>
    rw [listAll.eq_1, List.nil_append] at h
    exact absurd (h ▸ htail') not_leaves_listAll_cons
  | .element e children :: rest, .element e' children' :: rest' =>
    simp only [listAll, Node.list, List.cons_append, List.append_assoc, List.cons.injEq,
      Listed.mk.injEq, Item.element.injEq, true_and] at h
    obtain ⟨rfl, hbelow⟩ := h
    obtain ⟨rfl, hrest⟩ := listAll_append_inj (leaves_listAll_append htail)
      (leaves_listAll_append htail') hbelow
    obtain ⟨rfl, rfl⟩ := listAll_append_inj htail htail' hrest
    exact ⟨rfl, rfl⟩
  | .text value location :: rest, .text value' location' :: rest' =>
    simp only [listAll, Node.list, List.cons_append, List.nil_append, List.cons.injEq,
      Listed.mk.injEq, Item.text.injEq, true_and] at h
    obtain ⟨⟨rfl, rfl⟩, hrest⟩ := h
    obtain ⟨rfl, rfl⟩ := listAll_append_inj htail htail' hrest
    exact ⟨rfl, rfl⟩
  | .comment value location :: rest, .comment value' location' :: rest' =>
    simp only [listAll, Node.list, List.cons_append, List.nil_append, List.cons.injEq,
      Listed.mk.injEq, Item.comment.injEq, true_and] at h
    obtain ⟨⟨rfl, rfl⟩, hrest⟩ := h
    obtain ⟨rfl, rfl⟩ := listAll_append_inj htail htail' hrest
    exact ⟨rfl, rfl⟩
  | .element _ _ :: _, .text _ _ :: _ | .element _ _ :: _, .comment _ _ :: _
  | .text _ _ :: _, .element _ _ :: _ | .text _ _ :: _, .comment _ _ :: _
  | .comment _ _ :: _, .element _ _ :: _ | .comment _ _ :: _, .text _ _ :: _ =>
    simp [listAll, Node.list] at h
termination_by sizeOf nodes

/-- Forests that are listed the same way are the same. -/
theorem listAll_injective (depth : Nat) : Function.Injective (listAll depth) := by
  intro nodes nodes' h
  have hboth : listAll depth nodes ++ [] = listAll depth nodes' ++ [] := by rw [h]
  exact (listAll_append_inj (leaves_nil depth) (leaves_nil depth) hboth).1

end ComponentTags
