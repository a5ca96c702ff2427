import ComponentTags.Proofs.Registry.NameMap
import ComponentTags.Proofs.Resolve.Outcome
import ComponentTags.Proofs.Resolve.Suggestion

/-!
# Which tags are warned of

A warning is for a custom tag that stands for nothing: it is not found, and no override says otherwise
(`Unresolved`). If it is what some registered id becomes without hyphens and capitals, the warning names the
hyphenated spelling of that id; if no id does, the host is asked whether it knows the tag. There is no other
warning, and each of the two is given whenever it is due (`warning_iff`).
-/

namespace ComponentTags

open Text

variable {host : Host} {lookup : Lookup} {options : Options} {prefixes : List String} {e : Element}
  {outcome : Outcome}

/-- The element has a custom tag that is not found, and no override. -/
def Unresolved (lookup : Lookup) (prefixes : List String) (e : Element) : Prop :=
  Category.ofTag (lowercase e.tag) = .custom ∧ lookup (lowercase e.tag) = none ∧
    override? lookup prefixes e = none

instance (lookup : Lookup) (prefixes : List String) (e : Element) :
    Decidable (Unresolved lookup prefixes e) :=
  inferInstanceAs (Decidable (_ ∧ _ ∧ _))

/-- The warning is that of an unresolved tag, if the tag is. -/
theorem Decided.warning_eq_ite (h : Decided host lookup options e outcome) (htag : lowercase e.tag ≠ "") :
    outcome.warning =
      if Unresolved lookup options.bindPrefixes e then unresolvedWarning? host options (lowercase e.tag)
      else none := by
  cases h with
  | noTag hempty => exact absurd hempty htag
  | found _ _ hfound =>
    rw [if_neg]
    rintro ⟨-, hmissed, -⟩
    rw [hmissed] at hfound
    exact absurd hfound Bool.false_ne_true
  | overridden _ _ hover =>
    rw [if_neg]
    rintro ⟨-, -, hnone⟩
    exact override?_eq_none_iff.mp hnone _ _ hover
  | builtIn _ hcategory _ => rw [if_neg fun hunresolved => hcategory hunresolved.1]
  | unresolved _ hcategory hmissed hover hwarned =>
    rw [if_pos ⟨hcategory, hmissed, override?_eq_none_iff.mpr hover⟩, hwarned.unresolvedWarning?_eq]

/-! ## Over a registry -/

/-- Default options over a registry whose ids are enumerated in this order, with warnings on and with
prefixes of the caller's. -/
def Options.watchful (r : Registry) (ids prefixes : List String) : Options :=
  { Options.enumerated r ids with diagnostics := true, bindPrefixes := prefixes }

variable {r : Registry} {ids : List String} {tag expected : String}

/-- The name map suggests a spelling exactly if an id of the registry has it. -/
theorem nameMap_watchful (hids : Registry.Unambiguous r.ids) (hlisted : ids.Perm r.ids) :
    (Options.watchful r ids prefixes).nameMap.bind (·[tag]?) = some expected ↔
      ∃ id ∈ r.components, Name.squash id = tag ∧ Name.hyphenate id = expected := by
  show (Registry.namesOf ids)[tag]? = some expected ↔ _
  rw [Registry.namesOf_eq_of_perm hids hlisted, Registry.getElem?_namesOf hids]
  simp only [Registry.mem_ids]

/-- A tag that some id becomes is answered with the spelling of that id. -/
theorem unresolvedWarning?_of_id (hids : Registry.Unambiguous r.ids) (hlisted : ids.Perm r.ids)
    {id : String} (hid : id ∈ r.components) (hsquash : Name.squash id = tag) :
    unresolvedWarning? host (.watchful r ids prefixes) tag =
      some (.misCased tag (Name.hyphenate id)) := by
  have hdiag : (Options.watchful r ids prefixes).diagnostics = true := rfl
  have hnames : (Options.watchful r ids prefixes).nameMap.bind (·[tag]?) = some (Name.hyphenate id) :=
    (nameMap_watchful hids hlisted).mpr ⟨id, hid, hsquash, rfl⟩
  unfold unresolvedWarning?
  simp only [if_pos hdiag, hnames]

/-- For any other tag the host is asked. -/
theorem unresolvedWarning?_of_forall_ne (hids : Registry.Unambiguous r.ids) (hlisted : ids.Perm r.ids)
    (hnone : ∀ id ∈ r.components, Name.squash id ≠ tag) :
    unresolvedWarning? host (.watchful r ids prefixes) tag =
      if host.isUnknown tag then some (.unknown tag) else none := by
  have hdiag : (Options.watchful r ids prefixes).diagnostics = true := rfl
  have hnames : (Options.watchful r ids prefixes).nameMap.bind (·[tag]?) = none := by
    rw [Option.eq_none_iff_forall_ne_some]
    intro expected hexpected
    obtain ⟨id, hid, hsquash, -⟩ := (nameMap_watchful hids hlisted).mp hexpected
    exact hnone id hid hsquash
  unfold unresolvedWarning?
  simp only [if_pos hdiag, hnames]

/-- The four cases of a warning: the tag is resolved, it is what an id becomes, the host does not know it, or
the host knows it. -/
inductive Reported (host : Host) (r : Registry) (prefixes : List String) (e : Element) :
    Option Warning → Prop
  | resolved : ¬Unresolved r.lookup prefixes e → Reported host r prefixes e none
  | nearMiss {id : String} : Unresolved r.lookup prefixes e → id ∈ r.components →
      Name.squash id = lowercase e.tag →
      Reported host r prefixes e (some (.misCased (lowercase e.tag) (Name.hyphenate id)))
  | unknown : Unresolved r.lookup prefixes e → (∀ id ∈ r.components, Name.squash id ≠ lowercase e.tag) →
      host.isUnknown (lowercase e.tag) = true →
      Reported host r prefixes e (some (.unknown (lowercase e.tag)))
  | known : Unresolved r.lookup prefixes e → (∀ id ∈ r.components, Name.squash id ≠ lowercase e.tag) →
      host.isUnknown (lowercase e.tag) = false → Reported host r prefixes e none

/-- One of the four cases applies. -/
theorem reported_resolve (hids : Registry.Unambiguous r.ids) (hlisted : ids.Perm r.ids)
    (htag : lowercase e.tag ≠ "") :
    Reported host r prefixes e (resolve host (.watchful r ids prefixes) e).warning := by
  have hrow : Decided host (Options.watchful r ids prefixes).components.lookup
      (.watchful r ids prefixes) e (resolve host (.watchful r ids prefixes) e) :=
    decided_resolve
  rw [hrow.warning_eq_ite htag]
  split
  case isFalse hresolved => exact .resolved hresolved
  case isTrue hunresolved =>
    by_cases hid : ∃ id ∈ r.components, Name.squash id = lowercase e.tag
    · obtain ⟨id, hid, hsquash⟩ := hid
      rw [unresolvedWarning?_of_id hids hlisted hid hsquash]
      exact .nearMiss hunresolved hid hsquash
    · have hnone : ∀ id ∈ r.components, Name.squash id ≠ lowercase e.tag :=
        fun id hmem hsquash => hid ⟨id, hmem, hsquash⟩
      rw [unresolvedWarning?_of_forall_ne hids hlisted hnone]
      split
      case isTrue hunknown => exact .unknown hunresolved hnone hunknown
      case isFalse hknown => exact .known hunresolved hnone (Bool.eq_false_of_not_eq_true hknown)

variable {warning : Option Warning}

theorem Reported.eq_misCased_iff (hids : Registry.Unambiguous r.ids)
    (h : Reported host r prefixes e warning) :
    warning = some (.misCased tag expected) ↔
      tag = lowercase e.tag ∧ Unresolved r.lookup prefixes e ∧
        ∃ id ∈ r.components, Name.squash id = lowercase e.tag ∧ Name.hyphenate id = expected := by
  constructor
  · intro hwarning
    cases h with
    | resolved => cases hwarning
    | nearMiss hunresolved hid hsquash =>
      obtain ⟨rfl, rfl⟩ := Warning.misCased.inj (Option.some.inj hwarning)
      exact ⟨rfl, hunresolved, _, hid, hsquash, rfl⟩
    | unknown => cases hwarning
    | known => cases hwarning
  · rintro ⟨rfl, hunresolved, id, hid, hsquash, rfl⟩
    cases h with
    | resolved hresolved => exact absurd hunresolved hresolved
    | nearMiss _ hother hkey =>
      -- two ids of one key have one spelling
      have hspelling := hids _ (Registry.mem_ids.mpr hother) _ (Registry.mem_ids.mpr hid)
        (hkey.trans hsquash.symm)
      rw [hspelling]
    | unknown _ hnone _ => exact absurd hsquash (hnone id hid)
    | known _ hnone _ => exact absurd hsquash (hnone id hid)

theorem Reported.eq_unknown_iff (h : Reported host r prefixes e warning) :
    warning = some (.unknown tag) ↔
      tag = lowercase e.tag ∧ Unresolved r.lookup prefixes e ∧
        (∀ id ∈ r.components, Name.squash id ≠ lowercase e.tag) ∧
        host.isUnknown (lowercase e.tag) = true := by
  constructor
  · intro hwarning
    cases h with
    | resolved => cases hwarning
    | nearMiss => cases hwarning
    | unknown hunresolved hnone hunknown =>
      obtain rfl := Warning.unknown.inj (Option.some.inj hwarning)
      exact ⟨rfl, hunresolved, hnone, hunknown⟩
    | known => cases hwarning
  · rintro ⟨rfl, hunresolved, hnone, hunknown⟩
    cases h with
    | resolved hresolved => exact absurd hunresolved hresolved
    | nearMiss _ hid hsquash => exact absurd hsquash (hnone _ hid)
    | unknown => rfl
    | known _ _ hknown =>
      rw [hunknown] at hknown
      exact absurd hknown.symm Bool.false_ne_true

theorem Reported.eq_none_iff (h : Reported host r prefixes e warning) :
    warning = none ↔
      ¬Unresolved r.lookup prefixes e ∨
        (∀ id ∈ r.components, Name.squash id ≠ lowercase e.tag) ∧
          host.isUnknown (lowercase e.tag) = false := by
  constructor
  · intro hwarning
    cases h with
    | resolved hresolved => exact Or.inl hresolved
    | nearMiss => cases hwarning
    | unknown => cases hwarning
    | known _ hnone hknown => exact Or.inr ⟨hnone, hknown⟩
  · intro hquiet
    cases h with
    | resolved => rfl
    | known => rfl
    | nearMiss hunresolved hid hsquash =>
      rcases hquiet with hresolved | ⟨hnone, -⟩
      · exact absurd hunresolved hresolved
      · exact absurd hsquash (hnone _ hid)
    | unknown hunresolved _ hunknown =>
      rcases hquiet with hresolved | ⟨-, hknown⟩
      · exact absurd hunresolved hresolved
      · rw [hunknown] at hknown
        exact absurd hknown.symm Bool.false_ne_true

/-- Under options over a registry whose spellings are unambiguous, with warnings on, an element with a tag
is warned of as a misspelling exactly if its tag is unresolved and is what a registered id becomes without
hyphens and capitals; the hyphenated spelling of that id is the one expected. It is warned of as unknown
exactly if its tag is unresolved, no registered id becomes that, and the host does not know it. In all other
cases there is no warning, and a tag with a hyphen is never called a misspelling. -/
theorem warning_iff (hids : Registry.Unambiguous r.ids) (hlisted : ids.Perm r.ids)
    (htag : lowercase e.tag ≠ "") :
    (∀ tag expected,
      (resolve host (.watchful r ids prefixes) e).warning = some (.misCased tag expected) ↔
        tag = lowercase e.tag ∧ Unresolved r.lookup prefixes e ∧
          ∃ id ∈ r.components, Name.squash id = lowercase e.tag ∧ Name.hyphenate id = expected) ∧
    (∀ tag, (resolve host (.watchful r ids prefixes) e).warning = some (.unknown tag) ↔
      tag = lowercase e.tag ∧ Unresolved r.lookup prefixes e ∧
        (∀ id ∈ r.components, Name.squash id ≠ lowercase e.tag) ∧
        host.isUnknown (lowercase e.tag) = true) ∧
    ((resolve host (.watchful r ids prefixes) e).warning = none ↔
      ¬Unresolved r.lookup prefixes e ∨
        (∀ id ∈ r.components, Name.squash id ≠ lowercase e.tag) ∧
          host.isUnknown (lowercase e.tag) = false) ∧
    ('-' ∈ (lowercase e.tag).toList → ∀ tag expected,
      (resolve host (.watchful r ids prefixes) e).warning ≠ some (.misCased tag expected)) := by
  have hreported : Reported host r prefixes e (resolve host (.watchful r ids prefixes) e).warning :=
    reported_resolve hids hlisted htag
  refine ⟨fun tag expected => hreported.eq_misCased_iff hids, fun tag => hreported.eq_unknown_iff,
    hreported.eq_none_iff, ?_⟩
  intro hhyphen tag expected hwarning
  obtain ⟨-, -, id, -, hsquash, -⟩ := (hreported.eq_misCased_iff hids).mp hwarning
  rw [← hsquash] at hhyphen
  exact Name.hyphen_not_mem_squash id hhyphen

/-- An id with a capital is missed by a tag without, an id with a hyphen by a tag with one too many. -/
theorem warning_iff_of_two_ids :
    let r := Registry.run [.register "MyWidget" {}, .register "nav-bar" {}]
    Registry.Unambiguous r.ids ∧ ["nav-bar", "MyWidget"].Perm r.ids ∧
      (resolve .browser (.watchful r ["nav-bar", "MyWidget"] [":"]) { tag := "MyWidget" }).warning =
        some (.misCased "mywidget" "my-widget") ∧
      (resolve .browser (.watchful r ["nav-bar", "MyWidget"] [":"]) { tag := "nav--bar" }).warning =
        some (.unknown "nav--bar") := by
  intro r
  have hids : Registry.Unambiguous r.ids := by decide +kernel
  have hlisted : ["nav-bar", "MyWidget"].Perm r.ids := by decide +kernel
  obtain ⟨hmisCased, -⟩ :=
    @warning_iff .browser [":"] { tag := "MyWidget" } r _ hids hlisted (by decide +kernel)
  obtain ⟨-, hunknown, -⟩ :=
    @warning_iff .browser [":"] { tag := "nav--bar" } r _ hids hlisted (by decide +kernel)
  refine ⟨hids, hlisted, ?_, ?_⟩
  · rw [hmisCased]
    exact ⟨by decide +kernel, by decide +kernel, "MyWidget", by decide +kernel⟩
  · rw [hunknown]
    have hkeys : ∀ id ∈ r.ids, Name.squash id ≠ "nav--bar" := by decide +kernel
    exact ⟨by decide +kernel, by decide +kernel,
      fun id hid => hkeys id (Std.ExtTreeMap.mem_keys.mpr hid), by decide +kernel⟩

end ComponentTags
