import ComponentTags.Proofs.Forest.Listing
import ComponentTags.Proofs.Template.Expansion

/-!
# Void tags

A void element has no content and no end tag, so its tag must not be written out. What is written out is told
from plain markup by the form of the name alone: `Expands` lists the tags of a text that are, and those with
the name of a void element are the ones that start with a capital (`void_written_iff`). HTML knows no such
difference, and takes the end tag of `<BR></BR>` for another line break (`capital_void_written`).
-/

namespace ComponentTags.SelfClosing

open Text

/-! ## The tags that are written out -/

/-- Going through a text writes out these tags, and gives the third. -/
inductive Expands : List Char → List Tag → List Char → Prop where
  | nil : Expands [] [] []
  | tag {cs : List Char} {t : Tag} {tags : List Tag} {out : List Char} : tag? cs = some t →
      Expands t.after tags out → Expands cs (t :: tags) (t.written ++ out)
  | char {c : Char} {cs : List Char} {tags : List Tag} {out : List Char} : tag? (c :: cs) = none →
      Expands cs tags out → Expands (c :: cs) tags (c :: out)

variable {cs out : List Char} {tags : List Tag} {t : Tag}

theorem exists_expands (cs : List Char) : ∃ tags, Expands cs tags (expandFrom 0 cs) := by
  -- A tag leaves a shorter text, but not the next shorter one.
  induction hn : cs.length using Nat.strong_induction_on generalizing cs with
  | _ n ih =>
    cases cs with
    | nil => exact ⟨[], .nil⟩
    | cons c cs =>
      rw [List.length_cons] at hn
      cases htag : tag? (c :: cs) with
      | none =>
        obtain ⟨tags, hrest⟩ := ih cs.length (by omega) cs rfl
        rw [expandFrom_of_tag?_eq_none htag]
        exact ⟨tags, .char htag hrest⟩
      | some t =>
        have hafter := (isComponentName_of_tag? htag).2.length_le
        obtain ⟨tags, hrest⟩ := ih t.after.length (by omega) t.after rfl
        rw [expandFrom_of_tag? htag]
        exact ⟨t :: tags, .tag htag hrest⟩

/-- A text has one list of tags that are written out. -/
theorem Expands.eq {tags' : List Tag} {out' : List Char} (h : Expands cs tags out)
    (h' : Expands cs tags' out') : tags = tags' ∧ out = out' := by
  induction h generalizing tags' out' with
  | nil =>
    cases h' with
    | nil => exact ⟨rfl, rfl⟩
    | tag htag => cases htag
  | tag htag hrest ih =>
    cases h' with
    | nil => cases htag
    | tag htag' hrest' =>
      obtain rfl := Option.some.inj (htag.symm.trans htag')
      obtain ⟨rfl, rfl⟩ := ih hrest'
      exact ⟨rfl, rfl⟩
    | char hnone => cases htag.symm.trans hnone
  | char hnone hrest ih =>
    cases h' with
    | tag htag' => cases hnone.symm.trans htag'
    | char _ hrest' =>
      obtain ⟨rfl, rfl⟩ := ih hrest'
      exact ⟨rfl, rfl⟩

theorem Expands.isComponentName (h : Expands cs tags out) (ht : t ∈ tags) : IsComponentName t.name := by
  induction h with
  | nil => cases ht
  | @tag cs first tags out htag hrest ih =>
    rcases List.mem_cons.mp ht with rfl | ht
    · cases cs with
      | nil => cases htag
      | cons c cs => exact (isComponentName_of_tag? htag).1
    · exact ih ht
  | char hnone hrest ih => exact ih ht

/-- A self-closing component tag after text without an angle bracket is the first that is written out. -/
theorem Expands.of_selfClosing {pre name attributes gap rest : List Char} (hpre : '<' ∉ pre)
    (hname : IsComponentName name) (hattributes : IsAttributes attributes) (hgap : ∀ c ∈ gap, isBlank c)
    (h : Expands rest tags out) :
    Expands (pre ++ ('<' :: name ++ attributes ++ gap ++ '/' :: '>' :: rest))
      (⟨name, kept attributes gap, rest⟩ :: tags)
      (pre ++ ((⟨name, kept attributes gap, rest⟩ : Tag).written ++ out)) := by
  induction pre with
  | nil => exact .tag (hname.tag?_eq hattributes hgap rest) h
  | cons c pre ih =>
    rw [List.mem_cons, not_or] at hpre
    exact .char (tag?_eq_none_of_ne (Ne.symm hpre.1)) (ih hpre.2)

/-! ## Void elements -/

/-- The tags of elements that have no content. -/
def voidTags : List String :=
  ["area", "base", "br", "col", "embed", "hr", "img", "input", "link", "meta", "param", "source", "track",
    "wbr"]

/-- The names of void elements, in any casing. -/
def IsVoidName (name : List Char) : Prop :=
  ∃ tag ∈ voidTags, name.map Char.toLower = tag.toList

/-- The names that start with an ASCII capital. -/
def StartsWithCapital (name : List Char) : Prop :=
  ∃ first rest, name = first :: rest ∧ first.isUpper

variable {name : List Char}

theorem voidTags_letters : ∀ tag ∈ voidTags, ∀ c ∈ tag.toList, c.isLower := by
  have hall : voidTags.all (·.toList.all Char.isLower) := by decide
  intro tag htag
  exact List.all_eq_true.mp (List.all_eq_true.mp hall tag htag)

theorem isAlpha_of_isLower_toLower {c : Char} (h : c.toLower.isLower) : c.isAlpha := by
  show (c.isUpper || c.isLower) = true
  cases hupper : c.isUpper with
  | true => rfl
  | false =>
    rw [toLower_of_not_isUpper hupper] at h
    rw [h, Bool.or_true]

theorem IsVoidName.isAlpha (h : IsVoidName name) : ∀ c ∈ name, c.isAlpha := by
  obtain ⟨tag, htag, hname⟩ := h
  intro c hc
  apply isAlpha_of_isLower_toLower
  apply voidTags_letters tag htag
  rw [← hname]
  exact List.mem_map_of_mem hc

/-- There is no hyphen in the name of a void element, so only a capital makes it one of a component. -/
theorem IsVoidName.isComponentName_iff (h : IsVoidName name) :
    IsComponentName name ↔ StartsWithCapital name := by
  constructor
  · rintro (⟨first, back, rfl, hfirst, -⟩ | ⟨first, front, back, rfl, -⟩)
    · exact ⟨first, back, rfl, hfirst⟩
    · have hhyphen : '-'.isAlpha := h.isAlpha '-' (by simp)
      exact absurd hhyphen (by decide)
  · rintro ⟨first, back, rfl, hfirst⟩
    refine Or.inl ⟨first, back, rfl, hfirst, fun c hc => ?_⟩
    have halpha := h.isAlpha c (List.mem_cons_of_mem first hc)
    rw [isCapitalNameChar, Char.isAlphanum, halpha, Bool.true_or, Bool.true_or]

/-- In every text, the tags with the name of a void element that are written out are some of those whose
name starts with a capital. Such a tag that closes itself, with any attributes, is written out wherever no
angle bracket comes before it, and it is not if its name starts with a small letter. -/
theorem void_written_iff (source : String) :
    ∃ tags, Expands source.toList tags (expand source).toList ∧
      (∀ t ∈ tags, IsVoidName t.name → StartsWithCapital t.name) ∧
      ∀ pre name attributes gap rest,
        source.toList = pre ++ ('<' :: name ++ attributes ++ gap ++ '/' :: '>' :: rest) → '<' ∉ pre →
        IsVoidName name → IsAttributes attributes → (∀ c ∈ gap, isBlank c) →
          (⟨name, kept attributes gap, rest⟩ ∈ tags ↔ StartsWithCapital name) := by
  obtain ⟨tags, htags⟩ := exists_expands source.toList
  have hcapital : ∀ t ∈ tags, IsVoidName t.name → StartsWithCapital t.name :=
    fun t ht hvoid => hvoid.isComponentName_iff.mp (htags.isComponentName ht)
  have hout : (expand source).toList = expandFrom 0 source.toList := String.toList_ofList
  refine ⟨tags, by rwa [hout], hcapital, ?_⟩
  intro pre name attributes gap rest hsource hpre hvoid hattributes hgap
  constructor
  · intro hmem
    exact hcapital _ hmem hvoid
  · intro hname
    obtain ⟨others, hothers⟩ := exists_expands rest
    have hfirst := Expands.of_selfClosing hpre (hvoid.isComponentName_iff.mpr hname) hattributes hgap hothers
    rw [← hsource] at hfirst
    rw [(htags.eq hfirst).1]
    exact List.mem_cons_self

/-- An input with a capital, and one without behind it. -/
theorem void_written_of_capital :
    IsVoidName "Input".toList ∧ IsAttributes " value=\"/>\"".toList ∧ StartsWithCapital "Input".toList ∧
      expand "a > <Input value=\"/>\"\t/><input/>" = "a > <Input value=\"/>\"></Input><input/>" ∧
      ∃ tags, Expands "a > <Input value=\"/>\"\t/><input/>".toList tags
          "a > <Input value=\"/>\"></Input><input/>".toList ∧
        ⟨"Input".toList, " value=\"/>\"".toList, "<input/>".toList⟩ ∈ tags := by
  have hvoid : IsVoidName "Input".toList := ⟨"input", by decide, by decide⟩
  have hcapital : StartsWithCapital "Input".toList := ⟨'I', "nput".toList, by decide, by decide⟩
  have hvalue : IsAttribute " value=\"/>\"".toList :=
    ⟨" ".toList, "value".toList, "=\"/>\"".toList, by decide, by decide, List.all_eq_true.mp rfl, by decide,
      List.all_eq_true.mp rfl, @IsValue.quoted '"' "/>".toList (Or.inl rfl) (by decide)⟩
  have hattributes : IsAttributes " value=\"/>\"".toList := .cons hvalue .nil
  have hexpand : expand "a > <Input value=\"/>\"\t/><input/>" =
      "a > <Input value=\"/>\"></Input><input/>" := by
    decide +kernel
  obtain ⟨tags, htags, -, hiff⟩ := void_written_iff "a > <Input value=\"/>\"\t/><input/>"
  have hmem := (hiff "a > ".toList "Input".toList " value=\"/>\"".toList "\t".toList "<input/>".toList
    (by decide) (by decide) hvoid hattributes (List.all_eq_true.mp rfl)).mpr hcapital
  rw [hexpand] at htags
  exact ⟨hvoid, hattributes, hcapital, hexpand, tags, htags, hmem⟩

/-- A line break with a capital is written out, and read as two. -/
theorem capital_void_written :
    ¬(∀ source tags, Expands source tags (expandFrom 0 source) → ∀ t ∈ tags, ¬IsVoidName t.name) ∧
      listAll 0 (Template.parse "<br/>").nodes = [⟨0, .element { tag := "br", location := ⟨1, 1⟩ }⟩] ∧
      listAll 0 (Template.parse "<BR/>").nodes =
        [⟨0, .element { tag := "br", location := ⟨1, 1⟩ }⟩,
          ⟨0, .element { tag := "br", location := ⟨1, 1⟩ }⟩] := by
  refine ⟨fun h => ?_, by decide +kernel, by decide +kernel⟩
  have hbreak : Expands "<BR/>".toList [⟨"BR".toList, [], []⟩] (expandFrom 0 "<BR/>".toList) :=
    .tag (t := ⟨"BR".toList, [], []⟩) rfl .nil
  exact h _ _ hbreak _ List.mem_cons_self ⟨"br", by decide, by decide⟩

end ComponentTags.SelfClosing
