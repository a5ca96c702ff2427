import ComponentTags.Proofs.Registry.History
import ComponentTags.Proofs.Resolve.DecisionTable

/-!
# Where suggestions lead

A tag that is not found, but is what an id becomes without hyphens and capitals, is answered with the
hyphenated spelling of that id (`exists_of_misCased`). Looking that spelling up goes another way, through
the camel-case forms, and this file says when the two meet. They do not always: `My-Widget` is suggested
as `my-widget`, which leads to `myWidget` and `MyWidget` only.
-/

namespace ComponentTags

open Text

/-- Default options over a registry whose ids are enumerated in this order. -/
def Options.enumerated (r : Registry) (ids : List String) : Options :=
  { Options.ofRegistry r with nameMap := some (Registry.namesOf ids) }

theorem Options.enumerated_ids (r : Registry) : Options.enumerated r r.ids = .ofRegistry r := by
  rw [enumerated, ← Registry.nameMap_eq_namesOf, ofRegistry]

section

variable {host : Host}

/-- What an element with nothing but a custom tag resolves to. -/
theorem resolve_bare {options : Options} {tag : String} (htag : tag ≠ "")
    (hlower : lowercase tag = tag) (hcustom : Category.ofTag tag = .custom) :
    resolve host options { tag } =
      if (options.components.lookup tag).isSome then ⟨.static tag, { tag }, none⟩
      else ⟨.plain, { tag }, unresolvedWarning? host options tag⟩ := by
  rw [← hlower] at htag hcustom
  split
  · next hfound =>
    have hrow : Decided host options.components.lookup options { tag }
        ⟨.static (lowercase tag), { tag }, none⟩ :=
      .found htag hcustom (by rwa [hlower])
    rw [hlower] at hrow
    exact hrow.resolveWith_eq
  · next hmissed =>
    have hnone : options.components.lookup (lowercase tag) = none := by simpa [hlower] using hmissed
    have hrow : Decided host options.components.lookup options { tag }
        ⟨.plain, { tag }, unresolvedWarning? host options (lowercase tag)⟩ :=
      .unresolved htag hcustom hnone (not_overridden_of_attributes_eq_nil rfl)
        (warned_unresolvedWarning? _)
    rw [hlower] at hrow
    exact hrow.resolveWith_eq

/-- A suggestion belongs to a tag that is not empty, and is the name map's. -/
theorem nameMap_of_misCased {options : Options} {e : Element} {tag expected : String}
    (h : (resolve host options e).warning = some (.misCased tag expected)) :
    tag ≠ "" ∧ ∃ names, options.nameMap = some names ∧ names[tag]? = some expected := by
  have hrow : Decided host options.components.lookup options e (resolve host options e) :=
    decided_resolveWith
  generalize resolve host options e = outcome at h hrow
  cases hrow with
  | noTag => cases h
  | found => cases h
  | overridden => cases h
  | builtIn => cases h
  | unresolved htag _ _ _ hwarned =>
    dsimp only at h
    subst h
    cases hwarned with
    | misCased _ hnames hexpected => exact ⟨htag, _, hnames, hexpected⟩

/-- A suggestion is the hyphenated spelling of a registered id that is not empty. -/
theorem exists_of_misCased {r : Registry} {ids : List String} (hids : ids.Perm r.ids) {e : Element}
    {tag expected : String}
    (h : (resolve host (.enumerated r ids) e).warning = some (.misCased tag expected)) :
    ∃ id ∈ r.components, id ≠ "" ∧ Name.squash id = tag ∧ Name.hyphenate id = expected := by
  obtain ⟨htag, names, hnames, hexpected⟩ := nameMap_of_misCased h
  obtain rfl : Registry.namesOf ids = names := Option.some.inj hnames
  obtain ⟨id, hid, hsquash, hhyphenate⟩ := Registry.exists_of_namesOf hexpected
  refine ⟨id, Registry.mem_ids.mp (hids.mem_iff.mp hid), ?_, hsquash, hhyphenate⟩
  -- the empty id has nothing to squash, and its key is no tag
  rintro rfl
  rw [← hsquash] at htag
  exact htag (by decide +kernel)

/-- Whatever order its ids are enumerated in, what a registry suggests is the hyphenated spelling of one
of them. An element written that way is the component exactly if the spelling leads to a registered id,
and it is plain otherwise. If the id is ASCII, the spelling leads to the id itself exactly if
hyphenating or camelizing leaves the id as it is. -/
theorem suggestion_resolves_iff {r : Registry} (hr : r.Reachable) {ids : List String}
    (hids : ids.Perm r.ids) {e : Element} {tag expected : String}
    (h : (resolve host (.enumerated r ids) e).warning = some (.misCased tag expected)) :
    ∃ id ∈ r.components, Name.squash id = tag ∧ Name.hyphenate id = expected ∧
      (resolve host (.enumerated r ids) { tag := expected } =
          ⟨.static expected, { tag := expected }, none⟩ ↔
        ∃ other ∈ r.components, Name.LeadsTo expected other) ∧
      ((∀ other ∈ r.components, ¬Name.LeadsTo expected other) →
        resolve host (.enumerated r ids) { tag := expected } = ⟨.plain, { tag := expected },
          unresolvedWarning? host (.enumerated r ids) expected⟩) ∧
      (IsAscii id.toList →
        (Name.LeadsTo expected id ↔ Name.hyphenate id = id ∨ Name.camelize id = id)) := by
  obtain ⟨id, hid, hne, hsquash, rfl⟩ := exists_of_misCased hids h
  have hbare := @resolve_bare host (.enumerated r ids) (Name.hyphenate id)
    (fun hempty => hne (Name.hyphenate_eq_empty_iff.mp hempty)) (Name.lowercase_hyphenate id)
    (Category.ofTag_hyphenate (hr.sound id hid))
  have hlookup : ((Options.enumerated r ids).components.lookup (Name.hyphenate id)).isSome ↔
      ∃ other ∈ r.components, Name.LeadsTo (Name.hyphenate id) other :=
    Registry.lookup_isSome_iff
  refine ⟨id, hid, hsquash, rfl, ?_, ?_, Name.leadsTo_hyphenate_iff⟩
  · -- a plain element is never the component, so only a found spelling can be
    rw [hbare, ← hlookup]
    constructor
    · intro heq
      by_contra hmissed
      rw [if_neg hmissed] at heq
      cases heq
    · intro hfound
      rw [if_pos hfound]
  · intro hmissed
    have hnot : ¬((Options.enumerated r ids).components.lookup (Name.hyphenate id)).isSome := by
      rw [hlookup]
      rintro ⟨other, hother, hleads⟩
      exact hmissed other hother hleads
    rw [hbare, if_neg hnot]

/-- A capital at the head is found again. -/
theorem suggestion_of_capitals :
    (resolve .browser (.ofRegistry (.run [.register "MyWidget" {}, .register "Nav-Bar" {}]))
      { tag := "MyWidget" }).warning = some (.misCased "mywidget" "my-widget") ∧
    resolve .browser (.ofRegistry (.run [.register "MyWidget" {}, .register "Nav-Bar" {}]))
      { tag := "my-widget" } = ⟨.static "my-widget", { tag := "my-widget" }, none⟩ := by
  rw [← Options.enumerated_ids]
  refine ⟨by decide +kernel, ?_⟩
  obtain ⟨id, -, -, -, hiff, -, -⟩ := @suggestion_resolves_iff .browser
    (.run [.register "MyWidget" {}, .register "Nav-Bar" {}]) ⟨_, rfl⟩ _ (List.Perm.refl _)
    { tag := "MyWidget" } "mywidget" "my-widget" (by decide +kernel)
  exact hiff.mpr ⟨"MyWidget", by decide +kernel, by decide +kernel⟩

/-- An id with hyphens and capitals is suggested under a spelling that does not lead to it. -/
theorem suggestion_of_hyphens_and_capitals :
    (resolve .browser (.ofRegistry (.run [.register "My-Widget" {}]))
      { tag := "mywidget" }).warning = some (.misCased "mywidget" "my-widget") ∧
    resolve .browser (.ofRegistry (.run [.register "My-Widget" {}])) { tag := "my-widget" } =
      ⟨.plain, { tag := "my-widget" }, some (.unknown "my-widget")⟩ := by
  decide +kernel

end

end ComponentTags
