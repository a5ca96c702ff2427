import ComponentTags.Proofs.Forest.Elements
import ComponentTags.Proofs.Registry.History
import ComponentTags.Proofs.Resolve.Outcome
import Mathlib.Data.List.Forall2

/-!
# Registering more components

A component that is registered later may change what an element stands for: its tag is now found where an
`is` decided before, or a literal `is` is used that led nowhere. It never makes a component plain, and
never adds a warning. Whatever the smaller registry finds, the larger one does (`lookup_isSome_mono`), and
the decision table is monotone in what is found.
-/

namespace ComponentTags

/-- A registry that has the ids of another, whatever stands under them, finds all that the other finds. -/
theorem Registry.lookup_isSome_mono {small large : Registry}
    (hids : ∀ id ∈ small.components, id ∈ large.components) (spelling : String)
    (hfound : (small.lookup spelling).isSome) : (large.lookup spelling).isSome := by
  obtain ⟨id, hid, hleads⟩ := lookup_isSome_iff.mp hfound
  exact lookup_isSome_iff.mpr ⟨id, hids id hid, hleads⟩

section

variable {host : Host} {options : Options} {small large : Registry}

theorem decided_resolve_over (components : Registry) (e : Element) :
    Decided host components.lookup { options with components } e
      (resolve host { options with components } e) :=
  @decided_resolve host { options with components } e

theorem isComponent_settle_mono (hids : ∀ id ∈ small.components, id ∈ large.components) (e : Element)
    (h : (e.settle host { options with components := small }).resolution.isComponent = true) :
    (e.settle host { options with components := large }).resolution.isComponent = true := by
  rw [Element.settle_resolution] at h ⊢
  exact (decided_resolve_over small e).isComponent_mono (decided_resolve_over large e)
    (Registry.lookup_isSome_mono hids) rfl h

/-- Under the larger registry an element that is no component has the warning that it has under the
smaller one, and a component has none. -/
theorem notice?_mono (hids : ∀ id ∈ small.components, id ∈ large.components) (e : Element) :
    e.notice? host { options with components := large } =
      if !(e.settle host { options with components := large }).resolution.isComponent then
        e.notice? host { options with components := small }
      else none := by
  have hwarning := (@decided_resolve_over host options small e).warning_mono
    (@decided_resolve_over host options large e) (Registry.lookup_isSome_mono hids) rfl fun _ => rfl
  rw [Element.settle_resolution, Element.notice?, Element.notice?, hwarning]
  cases (resolve host { options with components := large } e).resolution.isComponent <;> rfl

/-- When a registry grows, whatever else the options say, every element of a forest that stands for a
component still does, and the warnings are some of those there were, in the same order. -/
theorem resolveAll_mono (hids : ∀ id ∈ small.components, id ∈ large.components) (nodes : List Node) :
    List.Forall₂ (fun before after : Element =>
        before.resolution.isComponent = true → after.resolution.isComponent = true)
      (elementsOf (resolveAll host { options with components := small } nodes).1)
      (elementsOf (resolveAll host { options with components := large } nodes).1) ∧
    (resolveAll host { options with components := large } nodes).2.Sublist
      (resolveAll host { options with components := small } nodes).2 := by
  constructor
  · rw [elementsOf_resolveAll, elementsOf_resolveAll, List.forall₂_map_left_iff,
      List.forall₂_map_right_iff, List.forall₂_same]
    intro e _
    exact isComponent_settle_mono hids e
  · -- the warnings under the larger registry are those of the elements that are still plain
    rw [resolveAll_snd, resolveAll_snd, funext (notice?_mono hids), ← List.filterMap_filter]
    exact List.filter_sublist.filterMap _

/-- Of two cards one has a bound `is` and the other is warned of. Once `XCard` is registered, that warning is
gone and no other comes. -/
theorem resolveAll_mono_of_card :
    (∀ id ∈ (Registry.run [.register "MyWidget" {}]).components,
      id ∈ (Registry.run [.register "XCard" {}, .register "MyWidget" { path := "a.vue" }]).components) ∧
    (resolveAll .browser { components := .run [.register "MyWidget" {}] }
      [.element { tag := "x-card", attributes := [⟨":is", "view", {}⟩] }
        [.element { tag := "X-Card" } []]]).2 = [(.unknown "x-card", {})] ∧
    (resolveAll .browser
      { components := .run [.register "XCard" {}, .register "MyWidget" { path := "a.vue" }] }
      [.element { tag := "x-card", attributes := [⟨":is", "view", {}⟩] }
        [.element { tag := "X-Card" } []]]).2.Sublist [(.unknown "x-card", {})] := by
  have hids : ∀ id ∈ (Registry.run [.register "MyWidget" {}]).components,
      id ∈ (Registry.run
        [.register "XCard" {}, .register "MyWidget" { path := "a.vue" }]).components := by
    simp only [← Std.ExtTreeMap.mem_keys]
    decide +kernel
  have hwarned : (resolveAll .browser { components := .run [.register "MyWidget" {}] }
      [.element { tag := "x-card", attributes := [⟨":is", "view", {}⟩] }
        [.element { tag := "X-Card" } []]]).2 = [(.unknown "x-card", {})] := by
    decide +kernel
  have hmono := (@resolveAll_mono .browser {} _ _ hids
    [.element { tag := "x-card", attributes := [⟨":is", "view", {}⟩] }
      [.element { tag := "X-Card" } []]]).2
  rw [hwarned] at hmono
  exact ⟨hids, hwarned, hmono⟩

end

end ComponentTags
