import Mathlib.Data.List.Perm.Basic

/-!
# Interleavings

A list interleaves some others if it can be made by taking their heads, one at a time, until they are all
empty. So it has what they have, as often as they have it (`perm`), and in the order in which each of them has
it (`sublist`).
-/

namespace ComponentTags

variable {α β : Type} {lists : List (List α)} {merged : List α}

/-- A list is made by taking the heads of other lists until none is left. -/
inductive Interleaves : List (List α) → List α → Prop
  | nil {lists : List (List α)} (h : ∀ list ∈ lists, list = []) : Interleaves lists []
  | cons {front back : List (List α)} {a : α} {list merged : List α}
      (h : Interleaves (front ++ list :: back) merged) :
      Interleaves (front ++ (a :: list) :: back) (a :: merged)

namespace Interleaves

theorem perm (h : Interleaves lists merged) : merged.Perm lists.flatten := by
  induction h with
  | nil hempty => rw [List.flatten_eq_nil_iff.mpr hempty]
  | @cons front back a list merged _ ih =>
    rw [List.flatten_append, List.flatten_cons] at ih ⊢
    exact (ih.cons a).trans List.perm_middle.symm

theorem sublist (h : Interleaves lists merged) : ∀ list ∈ lists, list.Sublist merged := by
  induction h with
  | nil hempty =>
    intro list hlist
    rw [hempty list hlist]
  | @cons front back a taken merged _ ih =>
    intro list hlist
    rcases List.mem_append.mp hlist with hfront | hback
    · exact (ih list (List.mem_append_left _ hfront)).cons a
    rcases List.mem_cons.mp hback with rfl | hback
    · exact (ih taken (List.mem_append_right _ List.mem_cons_self)).cons_cons a
    · exact (ih list (List.mem_append_right _ (List.mem_cons_of_mem _ hback))).cons a

theorem map (f : α → β) (h : Interleaves lists merged) :
    Interleaves (lists.map (List.map f)) (merged.map f) := by
  induction h with
  | nil hempty =>
    refine .nil fun list hlist => ?_
    obtain ⟨source, hsource, rfl⟩ := List.mem_map.mp hlist
    rw [hempty source hsource, List.map_nil]
  | cons _ ih =>
    rw [List.map_append, List.map_cons] at ih ⊢
    exact .cons ih

end Interleaves

end ComponentTags
