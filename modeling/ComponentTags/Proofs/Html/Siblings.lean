import ComponentTags.Html.Parse

/-!
# Elements side by side

HTML has no rule for an element with a hyphen in its name. The first such start tag has the root, the head
and the body put in before it; from then on each pair of a start tag and an end tag adds one element to
the body, and the builder is where it was before (`Builder.take_startTag`, `Builder.take_endTag`).
-/

namespace ComponentTags.Html

/-! ## Names without a rule -/

section

variable {name : String}

theorem contains_eq_false_of_hyphen {tags : List String} (htags : ∀ tag ∈ tags, '-' ∉ tag.toList)
    (h : '-' ∈ name.toList) : tags.contains name = false := by
  rw [Bool.eq_false_iff, ne_eq, List.contains_iff_mem]
  exact fun hmem => htags name hmem h

theorem beq_eq_false_of_hyphen {tag : String} (htag : '-' ∉ tag.toList) (h : '-' ∈ name.toList) :
    (name == tag) = false := by
  rw [beq_eq_false_iff_ne]
  rintro rfl
  exact htag h

/-- A table of names without a hyphen has no row for a name with one. -/
theorem find?_eq_none_of_hyphen {ρ : Type} {table : List (ρ × List String)}
    (htable : ∀ row ∈ table, ∀ tag ∈ row.2, '-' ∉ tag.toList) (h : '-' ∈ name.toList) :
    table.find? (fun row => row.2.contains name) = none := by
  rw [List.find?_eq_none]
  intro row hrow
  rw [contains_eq_false_of_hyphen (htable row hrow) h]
  exact Bool.false_ne_true

theorem StartRole.ofTag_eq_other (h : '-' ∈ name.toList) : StartRole.ofTag name = .other := by
  have hnone : startRoles.find? (fun row => row.2.contains name) = none :=
    find?_eq_none_of_hyphen (by decide +kernel) h
  unfold ofTag
  rw [hnone]
  rfl

theorem EndRole.ofTag_eq_other (h : '-' ∈ name.toList) : EndRole.ofTag name = .other := by
  have hnone : endRoles.find? (fun row => row.2.contains name) = none :=
    find?_eq_none_of_hyphen (by decide +kernel) h
  unfold ofTag
  rw [hnone]
  rfl

end

/-! ## The last child of a node -/

namespace Document

variable {d : Document} {parent : NodeId}

/-- The document with a new node after the last child of a node. -/
def append (d : Document) (parent : NodeId) (kind : Kind) : Document where
  cells := (d.cells.modify parent fun cell =>
    { cell with children := cell.children.push d.cells.size }).push { kind, parent := some parent }

theorem insertIdxIfInBounds_size {α : Type} (xs : Array α) (a : α) :
    xs.insertIdxIfInBounds xs.size a = xs.push a := by
  unfold Array.insertIdxIfInBounds
  rw [dif_pos (Nat.le_refl _)]
  exact Array.insertIdx_size_self

theorem insert_create (hparent : parent < d.cells.size) (kind : Kind) :
    (d.create kind).1.insert (.inside parent) d.cells.size = d.append parent kind := by
  obtain ⟨cell, hcell⟩ : ∃ cell, d.cells[parent]? = some cell := ⟨_, Array.getElem?_eq_getElem hparent⟩
  have hne : parent ≠ d.cells.size := Nat.ne_of_lt hparent
  unfold insert locate create update append children
  dsimp only
  congr 1
  rw [Array.getElem?_push, if_neg hne, hcell]
  apply Array.ext_getElem?
  intro i
  -- Only two places differ from the cells before: the new one, and that of the parent.
  simp only [Array.getElem?_modify, Array.getElem?_push, Array.size_modify]
  by_cases hnew : i = d.cells.size
  · subst hnew
    rw [if_neg hne, if_pos rfl, if_pos rfl, if_pos rfl]
    rfl
  · rw [if_neg (Ne.symm hnew), if_neg hnew, if_neg hnew]
    by_cases hhere : parent = i
    · subst hhere
      rw [if_pos rfl, if_pos rfl, hcell]
      exact congrArg some (congrArg (Cell.mk _ _) (insertIdxIfInBounds_size _ _))
    · rw [if_neg hhere, if_neg hhere]

/-! ## Siblings -/

/-- An element in the body. -/
def sibling (name : String) : Cell where
  kind := .element { tag := name } [] none
  parent := some 3

/-- The root, the head and the body of a document, with so many elements in the body. -/
def frame (count : Nat) : List Cell := [
  { kind := .fragment, children := #[1] },
  { kind := .element { tag := "html" } [] none, parent := some 0, children := #[2, 3] },
  { kind := .element { tag := "head" } [] none, parent := some 1 },
  { kind := .element { tag := "body" } [] none, parent := some 1
    children := (List.range' 4 count).toArray }]

/-- A document whose body holds elements with these names, and nothing else. -/
def siblings (names : List String) : Document where
  cells := (frame names.length ++ names.map sibling).toArray

theorem size_siblings (names : List String) : (siblings names).cells.size = names.length + 4 := by
  simp [siblings, frame]

theorem append_siblings (names : List String) (name : String) :
    (siblings names).append 3 (.element { tag := name } [] none) = siblings (names ++ [name]) := by
  have hchildren : (List.range' 4 names.length).toArray.push (names.length + 4) =
      (List.range' 4 (names ++ [name]).length).toArray := by
    rw [List.push_toArray, List.length_append, List.length_singleton, List.range'_concat, Nat.one_mul,
      Nat.add_comm 4]
  unfold append
  rw [size_siblings]
  unfold siblings
  rw [List.modify_toArray, List.push_toArray, List.map_append]
  unfold frame
  rw [← hchildren]
  rfl

theorem inner_siblings (names : List String) : (siblings names).inner 3 = 3 := by
  unfold inner kind? siblings
  rw [List.getElem?_toArray]
  rfl

end Document

/-! ## The builder -/

namespace Builder

open Document

variable {b b' : Builder} {token : Token} {parent : NodeId} {name : String}

theorem openElement_eq {name : Name} {attributes : List Attribute} (hspace : name.space = .html)
    (hname : name.tag ≠ "template") (hplace : b.place = .inside parent)
    (hparent : parent < b.document.cells.size) :
    b.openElement name attributes =
      ({ b with
          document := b.document.append parent (.element name attributes none)
          opened := ⟨b.document.cells.size, name, false⟩ :: b.opened }, b.document.cells.size) := by
  have hplain : name.isHtml "template" = false := by
    rw [Name.isHtml, beq_false_of_ne hname, Bool.and_false]
  have hholds : holdsHtml name attributes = false := by
    rw [holdsHtml, hspace]
    rfl
  have hcreate : b.document.createElement name attributes =
      ((b.document.create (.element name attributes none)).1, b.document.cells.size) := by
    unfold createElement
    rw [hplain, if_neg Bool.false_ne_true]
    rfl
  have hinsert : b.insertElement name attributes =
      ({ b with document := b.document.append parent (.element name attributes none) },
        b.document.cells.size) := by
    unfold insertElement
    rw [hcreate, hplace]
    dsimp only
    rw [insert_create hparent]
  unfold openElement
  rw [hinsert, hholds]

theorem applyIn_again {rounds : Nat} (hforeign : b.isForeign token = false)
    (hrule : b.rule b.mode token = (b', .again)) :
    b.applyIn token (rounds + 1) = b'.applyIn token rounds := by
  rw [applyIn, hforeign, if_neg Bool.false_ne_true, hrule]

theorem applyIn_done {rounds : Nat} (hforeign : b.isForeign token = false)
    (hrule : b.rule b.mode token = (b', .done)) : b.applyIn token (rounds + 1) = (b', none) := by
  rw [applyIn, hforeign, if_neg Bool.false_ne_true, hrule]

/-! ### Between two siblings -/

/-- The root and the body are open. -/
def bodyOpened : OpenElements :=
  [⟨3, { tag := "body" }, false⟩, ⟨1, { tag := "html" }, false⟩]

/-- The builder behind some siblings. -/
def behind (names : List String) : Builder where
  document := siblings names
  mode := .inBody
  opened := bodyOpened
  head := some 2
  oldStyle := true

/-- The builder in the last of some siblings. -/
def within (names : List String) (name : String) : Builder :=
  { behind (names ++ [name]) with opened := ⟨names.length + 4, { tag := name }, false⟩ :: bodyOpened }

theorem startInBody_behind (hname : '-' ∈ name.toList) (names : List String) :
    (behind names).startInBody { name } = (within names name, .done) := by
  have htemplate : name ≠ "template" := beq_eq_false_iff_ne.mp (beq_eq_false_of_hyphen (by decide) hname)
  have hplace : (behind names).place = .inside 3 := congrArg Place.inside (inner_siblings names)
  have hparent : 3 < (behind names).document.cells.size := by
    show 3 < (siblings names).cells.size
    rw [size_siblings]
    omega
  have hopen : ((behind names).openElement { tag := name } []).1 = within names name := by
    rw [openElement_eq rfl htemplate hplace hparent]
    show ({ behind names with
      document := (siblings names).append 3 (.element { tag := name } [] none)
      opened := ⟨(siblings names).cells.size, { tag := name }, false⟩ :: bodyOpened } : Builder) = _
    rw [append_siblings, size_siblings]
    rfl
  unfold startInBody
  rw [StartRole.ofTag_eq_other hname]
  show (((behind names).openElement { tag := name } []).1, Verdict.done) = _
  rw [hopen]

theorem closeOther_cons_self (node : NodeId) (outer : OpenElements) :
    OpenElements.closeOther (⟨node, { tag := name }, false⟩ :: outer) name = outer := by
  have hself : Name.isHtml { tag := name } name = true := by
    rw [Name.isHtml, beq_self_eq_true, beq_self_eq_true, Bool.and_true]
  simp [OpenElements.closeOther, OpenElements.closeTag, OpenElements.closeThrough,
    OpenElements.closeDownTo, OpenElements.closeWhile, hself]

/-- A start tag opens one more sibling. -/
theorem take_startTag (hname : '-' ∈ name.toList) (names : List String) :
    (behind names).take (.startTag { name }) = (within names name, none) := by
  show (behind names).applyIn (.startTag { name }) 20 = _
  exact applyIn_done rfl (startInBody_behind hname names)

/-- Its end tag closes it. -/
theorem take_endTag (hname : '-' ∈ name.toList) (names : List String) :
    (within names name).take (.endTag { name }) = (behind (names ++ [name]), none) := by
  show (within names name).applyIn (.endTag { name }) 22 = _
  refine applyIn_done rfl ?_
  show (within names name).endInBody { name } = _
  unfold endInBody
  rw [EndRole.ofTag_eq_other hname]
  show ({ behind (names ++ [name]) with
    opened := OpenElements.closeOther (⟨names.length + 4, { tag := name }, false⟩ :: bodyOpened) name } :
    Builder).done = _
  rw [closeOther_cons_self]
  rfl

/-! ### The start and the end of the document -/

/-- The builder when nothing has been put in and something must be. -/
def unrooted : Builder where
  mode := .beforeHtml
  oldStyle := true

/-- The builder when the root has been put in. -/
def withRoot : Builder where
  document := unrooted.document.append root (.element { tag := "html" } [] none)
  mode := .beforeHead
  opened := [⟨1, { tag := "html" }, false⟩]
  oldStyle := true

/-- The builder when the head has been put in. -/
def withHead : Builder where
  document := withRoot.document.append 1 (.element { tag := "head" } [] none)
  mode := .inHead
  opened := ⟨2, { tag := "head" }, false⟩ :: withRoot.opened
  head := some 2
  oldStyle := true

/-- The builder when the head has been closed. -/
def pastHead : Builder :=
  { withHead with mode := .afterHead, opened := withRoot.opened }

theorem rule_unrooted (hname : '-' ∈ name.toList) :
    unrooted.rule unrooted.mode (.startTag { name }) = (withRoot, .again) := by
  have hopen : unrooted.openElement { tag := "html" } [] = ({ withRoot with mode := .beforeHtml }, 1) :=
    openElement_eq rfl (by decide) rfl (by decide)
  show (if (name == "html") = true then _ else
    (unrooted.openElement { tag := "html" } []).1.againIn .beforeHead) = _
  rw [beq_eq_false_of_hyphen (by decide) hname, if_neg Bool.false_ne_true, hopen]
  rfl

theorem rule_withRoot (hname : '-' ∈ name.toList) :
    withRoot.rule withRoot.mode (.startTag { name }) = (withHead, .again) := by
  have hopen : withRoot.openElement { tag := "head" } [] =
      ({ withHead with mode := .beforeHead, head := none }, 2) :=
    openElement_eq rfl (by decide) rfl (by decide)
  have hhead : withRoot.openHead { name := "head" } = withHead := by
    unfold openHead
    rw [hopen]
    rfl
  show withRoot.beforeHeadRule (.startTag { name }) = _
  unfold beforeHeadRule
  rw [hhead]
  dsimp only
  split
  · exact absurd hname (by decide)
  · exact absurd hname (by decide)
  · rfl

theorem rule_withHead (hname : '-' ∈ name.toList) :
    withHead.rule withHead.mode (.startTag { name }) = (pastHead, .again) := by
  have hhead : headTags.contains name = false := contains_eq_false_of_hyphen (by decide) hname
  show withHead.inHeadRule (.startTag { name }) = _
  unfold inHeadRule
  dsimp only
  simp (disch := decide) only [beq_eq_false_of_hyphen _ hname, hhead, Bool.or_self, Bool.false_eq_true,
    if_false]
  rfl

theorem rule_pastHead (hname : '-' ∈ name.toList) :
    pastHead.rule pastHead.mode (.startTag { name }) = (behind [], .again) := by
  have hhead : headTags.contains name = false := contains_eq_false_of_hyphen (by decide) hname
  have hplace : pastHead.place = .inside 1 := rfl
  have hopen : pastHead.openElement { tag := "body" } [] = ({ behind [] with mode := .afterHead }, 3) :=
    openElement_eq rfl (by decide) hplace (by decide)
  have hbody : pastHead.openImplied "body" = { behind [] with mode := .afterHead } :=
    congrArg Prod.fst hopen
  show pastHead.afterHeadRule (.startTag { name }) = _
  unfold afterHeadRule
  dsimp only
  simp (disch := decide) only [beq_eq_false_of_hyphen _ hname, hhead, hbody, Bool.false_eq_true, if_false]
  rfl

/-- The first start tag has the root, the head and the body put in before it. -/
theorem take_startTag_first (hname : '-' ∈ name.toList) :
    ({} : Builder).take (.startTag { name }) = (within [] name, none) := by
  -- In each of the modes before the body the tag is looked at again when something was put in.
  have hinitial : ({} : Builder).rule .initial (.startTag { name }) = (unrooted, .again) := rfl
  calc ({} : Builder).applyIn (.startTag { name }) 16
      = unrooted.applyIn (.startTag { name }) 15 := applyIn_again rfl hinitial
    _ = withRoot.applyIn (.startTag { name }) 14 := applyIn_again rfl (rule_unrooted hname)
    _ = withHead.applyIn (.startTag { name }) 13 := applyIn_again rfl (rule_withRoot hname)
    _ = pastHead.applyIn (.startTag { name }) 12 := applyIn_again rfl (rule_withHead hname)
    _ = (behind []).applyIn (.startTag { name }) 11 := applyIn_again rfl (rule_pastHead hname)
    _ = (within [] name, none) := applyIn_done rfl (startInBody_behind hname [])

/-- The end of the document leaves it as it is. -/
theorem take_finish (names : List String) : (behind names).take .finish = (behind names, none) := by
  show (behind names).applyIn .finish 20 = _
  exact applyIn_done rfl rfl

end Builder

/-! ## The trees of siblings -/

namespace Document

/-- The tree of an element in the body. -/
def siblingTree (name : String) : Tree :=
  .element { tag := name } [] [] []

/-- The tree of a node that is known, given the trees below some nodes. -/
def treeOf (d : Document) (below : List NodeId → List Tree) (cell : Cell) : Option Tree :=
  match cell.kind with
  | .fragment => none
  | .element name attributes contents =>
    let held := (contents.map fun id => (d.children id).toList).getD []
    some (.element name attributes (below held) (below cell.children.toList))
  | .text value => some (.text value)
  | .comment value => some (.comment value)
  | .doctype => some .doctype

theorem treesTo_succ (d : Document) (depth : Nat) (nodes : List NodeId) :
    d.treesTo (depth + 1) nodes =
      nodes.filterMap fun node => d.cells[node]?.bind (d.treeOf (d.treesTo depth)) := rfl

theorem treesTo_nil (d : Document) (depth : Nat) : d.treesTo depth [] = [] := by
  cases depth <;> rfl

/-- Going through the last nodes of a list by their numbers is going through the nodes. -/
theorem filterMap_range' {β : Type} (f : Cell → Option β) (front cells : List Cell) :
    (List.range' front.length cells.length).filterMap (fun i => (front ++ cells)[i]?.bind f) =
      cells.filterMap f := by
  induction cells generalizing front with
  | nil => rfl
  | cons cell cells ih =>
    have hhere : (front ++ cell :: cells)[front.length]? = some cell := by simp
    have hrest := ih (front ++ [cell])
    rw [List.length_append, List.length_singleton, List.append_assoc, List.singleton_append] at hrest
    rw [List.length_cons, List.range'_succ, List.filterMap_cons, hhere, Option.bind_some, hrest,
      List.filterMap_cons]

theorem treeOf_sibling (d : Document) (depth : Nat) (name : String) :
    d.treeOf (d.treesTo depth) (sibling name) = some (siblingTree name) := by
  show some (Tree.element _ [] (d.treesTo depth []) (d.treesTo depth [])) = _
  rw [treesTo_nil]
  rfl

theorem getElem?_siblings (names : List String) (node : NodeId) :
    (siblings names).cells[node]? = (frame names.length ++ names.map sibling)[node]? :=
  List.getElem?_toArray

theorem treesTo_range' (names : List String) (depth : Nat) :
    (siblings names).treesTo (depth + 1) (List.range' 4 names.length) = names.map siblingTree := by
  have hnodes := filterMap_range' ((siblings names).treeOf ((siblings names).treesTo depth))
    (frame names.length) (names.map sibling)
  rw [List.length_map] at hnodes
  have hcells : (names.map sibling).filterMap
      ((siblings names).treeOf ((siblings names).treesTo depth)) = names.map siblingTree := by
    rw [List.filterMap_map, ← List.filterMap_eq_map]
    congr 1
    funext name
    exact treeOf_sibling _ _ name
  rw [treesTo_succ, ← hcells, ← hnodes]
  simp only [getElem?_siblings]
  rfl

/-- The elements are the children of the body. -/
theorem trees_siblings (names : List String) :
    (siblings names).trees = [.element { tag := "html" } [] [] [.element { tag := "head" } [] [] [],
      .element { tag := "body" } [] [] (names.map siblingTree)]] := by
  have hcell : ∀ (node : NodeId) (cell : Cell), (frame names.length)[node]? = some cell →
      (siblings names).cells[node]? = some cell := by
    intro node cell h
    obtain ⟨hnode, -⟩ := List.getElem?_eq_some_iff.mp h
    rw [getElem?_siblings, List.getElem?_append_left hnode, h]
  have hparts : (siblings names).treesTo (names.length + 3) [2, 3] =
      [.element { tag := "head" } [] [] [], .element { tag := "body" } [] [] (names.map siblingTree)] := by
    rw [treesTo_succ, List.filterMap_cons, hcell 2 _ rfl, List.filterMap_cons, hcell 3 _ rfl]
    show [Tree.element _ [] (treesTo _ _ []) (treesTo _ _ []),
      Tree.element _ [] (treesTo _ _ []) (treesTo _ _ (List.range' 4 names.length))] = _
    rw [treesTo_nil, treesTo_range']
  have hroot : ((siblings names).children root).toList = [1] := by
    unfold children
    rw [hcell root _ rfl]
    rfl
  -- There are more levels than the three that a document with siblings has.
  unfold trees
  rw [size_siblings, hroot, treesTo_succ, List.filterMap_cons, hcell 1 _ rfl]
  show [Tree.element _ [] (treesTo _ _ []) (treesTo _ _ [2, 3])] = _
  rw [treesTo_nil, hparts]

end Document

end ComponentTags.Html
