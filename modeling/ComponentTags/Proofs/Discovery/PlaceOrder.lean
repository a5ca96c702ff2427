import ComponentTags.Discovery.FileTree
import Mathlib.Data.List.Basic

/-!
# The order of places

Files are taken in the order of their places: name by name, and in a name byte by byte (`Precedes`). It is not
the order of the paths as bytes, where the slash between two names counts as well. `before` decides this
order (`before_iff`), which is total, and two places that come before each other are the same.
-/

namespace ComponentTags.Discovery.Place

variable {a b c : Place}

/-- A place comes before another one: the first names that differ decide, and in these the first bytes that
differ. What comes first of all ends there. -/
def Precedes (a b : Place) : Prop :=
  List.Lex (List.Lex (· < ·)) a b

/-- Comparing lists in the order of their members is comparing them lexicographically. -/
theorem lex_iff_compareLex {α : Type} {r : α → α → Prop} {cmp : α → α → Ordering} [Std.LawfulEqCmp cmp]
    (hcmp : ∀ {x y}, r x y ↔ cmp x y = .lt) {xs ys : List α} :
    List.Lex r xs ys ↔ List.compareLex cmp xs ys = .lt := by
  induction xs generalizing ys with
  | nil =>
    cases ys with
    | nil => simp [List.compareLex_nil_nil]
    | cons y ys => simp [List.compareLex_nil_cons]
  | cons x xs ih =>
    cases ys with
    | nil => simp [List.compareLex_cons_nil]
    | cons y ys =>
      rw [List.cons_lex_cons_iff, List.compareLex_cons_cons, Ordering.then_eq_lt, hcmp,
        Std.LawfulEqCmp.compare_eq_iff_eq]
      exact or_congr_right (and_congr_right fun _ => ih)

theorem precedes_iff : a.Precedes b ↔ List.compareLex compare a b = .lt := by
  have hname : ∀ {x y : FileName}, List.Lex (· < ·) x y ↔ compare x y = .lt :=
    lex_iff_compareLex Std.compare_eq_lt.symm
  exact lex_iff_compareLex hname

instance (a b : Place) : Decidable (a.Precedes b) :=
  decidable_of_iff (List.compareLex compare a b = .lt) precedes_iff.symm

theorem before_eq (a b : Place) : a.before b = (List.compareLex compare a b).isLE := by
  induction a generalizing b with
  | nil => cases b <;> rfl
  | cons x as ih =>
    cases b with
    | nil => rfl
    | cons y bs =>
      rw [before, List.compareLex_cons_cons, ih bs]
      cases compare x y <;> rfl

theorem before_iff : a.before b ↔ a = b ∨ a.Precedes b := by
  have heq : a = b ↔ List.compareLex compare a b = .eq := Std.LawfulEqCmp.compare_eq_iff_eq.symm
  rw [before_eq, precedes_iff, heq]
  cases List.compareLex compare a b <;> decide

theorem Precedes.asymm (h : a.Precedes b) : ¬b.Precedes a := by
  rw [precedes_iff] at h ⊢
  exact Std.OrientedCmp.not_lt_of_lt h

theorem Precedes.irrefl : ¬a.Precedes a :=
  fun h => h.asymm h

theorem before_trans (hab : a.before b) (hbc : b.before c) : a.before c := by
  rw [before_eq] at hab hbc ⊢
  exact Std.TransCmp.isLE_trans hab hbc

theorem before_total (a b : Place) : a.before b || b.before a := by
  have hswap : List.compareLex compare b a = (List.compareLex compare a b).swap :=
    Std.OrientedCmp.eq_swap
  rw [before_eq, before_eq, hswap]
  cases List.compareLex compare a b <;> rfl

theorem before_antisymm (hab : a.before b) (hba : b.before a) : a = b := by
  rcases before_iff.mp hab with heq | hlt
  · exact heq
  rcases before_iff.mp hba with heq | hgt
  · exact heq.symm
  · exact absurd hgt hlt.asymm

end ComponentTags.Discovery.Place
