import ComponentTags.Proofs.Forest.Listing
import ComponentTags.Template.Flatten

/-!
# Nothing is lost in flattening

A document, too, can be read from top to bottom, with what a template element holds before its children.
`Visit` is what is known of a node then: the node without what is below it, and the elements above it. That
is enough to say what becomes of it (`Visit.listed?`): whether it is dropped, and how deep it stands if it
is not. The nodes that are collected from a document are the forest with that listing and no other
(`eq_collectAll_iff`), so nothing else is dropped, nothing appears twice, and nothing changes its place.
-/

namespace ComponentTags

/-! ## Reading a document from top to bottom -/

namespace Html

/-- A node of a document without what is below it. -/
inductive Label where
  | element (name : Name) (attributes : List Attribute)
  | text (value : String)
  | comment (value : String)
  | doctype
  | instruction
deriving DecidableEq, Repr

/-- A node of a document as it is met on the way from top to bottom. -/
structure Visit where
  /-- The elements that the node is below, the nearest first. -/
  above : List Name
  label : Label
deriving DecidableEq, Repr

mutual

/-- The visits of a tree that is below some elements. What a template element holds comes before its
children. -/
def Tree.visits (above : List Name) : Tree → List Visit
  | .element name attributes contents children =>
    ⟨above, .element name attributes⟩ ::
      (visitsAll (name :: above) contents ++ visitsAll (name :: above) children)
  | .text value => [⟨above, .text value⟩]
  | .comment value => [⟨above, .comment value⟩]
  | .doctype => [⟨above, .doctype⟩]
  | .instruction => [⟨above, .instruction⟩]

/-- The visits of some trees that are below the same elements. -/
def visitsAll (above : List Name) : List Tree → List Visit
  | [] => []
  | tree :: rest => tree.visits above ++ visitsAll above rest

end

/-- The name of an element. -/
def Tree.name? : Tree → Option Name
  | .element name _ _ _ => some name
  | .text _ | .comment _ | .doctype | .instruction => none

mutual

/-- No root, head or body holds anything apart from its children. -/
def Tree.WrappersBare : Tree → Prop
  | .element name _ contents children =>
    (isWrapperTag name.tag → contents = []) ∧ WrappersBareAll contents ∧ WrappersBareAll children
  | .text _ | .comment _ | .doctype | .instruction => True

/-- No root, head or body in some trees holds anything apart from its children. -/
def WrappersBareAll : List Tree → Prop
  | [] => True
  | tree :: rest => tree.WrappersBare ∧ WrappersBareAll rest

end

end Html

open Html (Tree Label Visit visitsAll WrappersBareAll)

/-! ## What becomes of a node -/

section

variable {rootWritten : Bool}

/-- Whether the innermost of some elements gives way to its children: the source did not write the root,
and the elements are wrappers, from the innermost to the outermost. -/
def givesWay (rootWritten : Bool) (elements : List Html.Name) : Bool :=
  !rootWritten && elements.all (isWrapperTag ·.tag)

/-- How many of the elements above a node stay. -/
def depthBelow (rootWritten : Bool) : List Html.Name → Nat
  | [] => 0
  | name :: above =>
    (if givesWay rootWritten (name :: above) then 0 else 1) + depthBelow rootWritten above

namespace Html.Visit

/-- Whether a node is dropped: a wrapper that gives way, a blank text, a document type, an instruction. -/
def dropped (rootWritten : Bool) (v : Visit) : Bool :=
  match v.label with
  | .element name _ => givesWay rootWritten (name :: v.above)
  | .text value => Text.isAllBlank value
  | .comment _ => false
  | .doctype | .instruction => true

/-- What a node of the document is in a template: texts and comments as they are, elements with all their
attributes, and still plain. -/
def item? (v : Visit) : Option Item :=
  match v.label with
  | .element name attributes =>
    some (.element {
      tag := name.tag
      attributes := attributes.map fun a => { name := a.name, value := a.value, location := templateLocation }
      location := templateLocation
      resolution := .plain })
  | .text value => some (.text value templateLocation)
  | .comment value => some (.comment value templateLocation)
  | .doctype | .instruction => none

/-- How a node of the document is listed in the template, unless it is dropped. -/
def listed? (rootWritten : Bool) (v : Visit) : Option Listed :=
  if v.dropped rootWritten then none
  else v.item?.map fun item => ⟨depthBelow rootWritten v.above, item⟩

theorem listed?_of_dropped {v : Visit} (h : v.dropped rootWritten) : v.listed? rootWritten = none := by
  rw [listed?, if_pos h]

theorem listed?_of_not_dropped {v : Visit} (h : v.dropped rootWritten = false) :
    v.listed? rootWritten = v.item?.map fun item => ⟨depthBelow rootWritten v.above, item⟩ := by
  rw [listed?, h, if_neg Bool.false_ne_true]

end Html.Visit

open Html.Visit

theorem givesWay_cons (name : Html.Name) (above : List Html.Name) :
    givesWay rootWritten (name :: above) = (isWrapperTag name.tag && givesWay rootWritten above) := by
  rw [givesWay, givesWay, List.all_cons, Bool.and_left_comm]

/-- Below an element that stays, every element stays. -/
theorem givesWay_cons_of_stays {above : List Html.Name} (h : givesWay rootWritten above = false)
    (name : Html.Name) : givesWay rootWritten (name :: above) = false := by
  rw [givesWay_cons, h, Bool.and_false]

theorem depthBelow_cons_of_stays {above : List Html.Name} {name : Html.Name}
    (h : givesWay rootWritten (name :: above) = false) :
    depthBelow rootWritten (name :: above) = depthBelow rootWritten above + 1 := by
  rw [depthBelow, h, if_neg Bool.false_ne_true, Nat.add_comm]

/-- Elements that give way all the way up count for nothing. -/
theorem depthBelow_of_givesWay {above : List Html.Name} (h : givesWay rootWritten above) :
    depthBelow rootWritten above = 0 := by
  induction above with
  | nil => rfl
  | cons name above ih =>
    have habove : givesWay rootWritten above := by
      rw [givesWay_cons, Bool.and_eq_true] at h
      exact h.2
    rw [depthBelow, if_pos h, ih habove]

/-! ## Collecting -/

mutual

/-- The nodes of a tree are listed as its visits say, unless the tree is an element that gives way: no
element below one that stays does. -/
theorem listAll_ofTree {above : List Html.Name} (tree : Tree)
    (h : ∀ name, tree.name? = some name → givesWay rootWritten (name :: above) = false) :
    listAll (depthBelow rootWritten above) (Node.ofTree tree) =
      (tree.visits above).filterMap (Visit.listed? rootWritten) := by
  cases tree with
  | element name attributes contents children =>
    have hstays : givesWay rootWritten (name :: above) = false := h name rfl
    have hkept : Visit.dropped rootWritten ⟨above, .element name attributes⟩ = false := hstays
    rw [Node.ofTree, listAll_singleton, Node.list, listAll_append, ← depthBelow_cons_of_stays hstays,
      listAll_ofTrees contents hstays, listAll_ofTrees children hstays, Tree.visits,
      List.filterMap_cons_some (listed?_of_not_dropped hkept), List.filterMap_append]
  | text value =>
    rw [Node.ofTree, Tree.visits]
    cases hblank : Text.isAllBlank value with
    | true =>
      have hdropped : Visit.dropped rootWritten ⟨above, .text value⟩ := hblank
      rw [if_pos rfl, List.filterMap_cons_none (listed?_of_dropped hdropped)]
      rfl
    | false =>
      have hkept : Visit.dropped rootWritten ⟨above, .text value⟩ = false := hblank
      rw [if_neg Bool.false_ne_true, List.filterMap_cons_some (listed?_of_not_dropped hkept)]
      rfl
  | comment value => rfl
  | doctype => rfl
  | instruction => rfl

theorem listAll_ofTrees {above : List Html.Name} (trees : List Tree)
    (h : givesWay rootWritten above = false) :
    listAll (depthBelow rootWritten above) (Node.ofTrees trees) =
      (visitsAll above trees).filterMap (Visit.listed? rootWritten) := by
  cases trees with
  | nil => rfl
  | cons tree rest =>
    rw [Node.ofTrees, listAll_append, listAll_ofTree tree fun name _ => givesWay_cons_of_stays h name,
      listAll_ofTrees rest h, visitsAll, List.filterMap_append]

end

/-- Below wrappers only, an element is replaced by its children exactly if it gives way. -/
theorem collect_element {above : List Html.Name} (hwrappers : above.all (isWrapperTag ·.tag))
    (name : Html.Name) (attributes : List Html.Attribute) (contents children : List Tree) :
    Node.collect rootWritten (.element name attributes contents children) =
      if givesWay rootWritten (name :: above) then Node.collectAll rootWritten children
      else Node.ofTree (.element name attributes contents children) := by
  rw [Node.collect, givesWay, List.all_cons, hwrappers, Bool.and_true, Bool.and_comm]

mutual

theorem listAll_collect {above : List Html.Name} (tree : Tree)
    (hwrappers : above.all (isWrapperTag ·.tag)) (hbare : tree.WrappersBare) :
    listAll (depthBelow rootWritten above) (Node.collect rootWritten tree) =
      (tree.visits above).filterMap (Visit.listed? rootWritten) := by
  cases tree with
  | element name attributes contents children =>
    rw [collect_element hwrappers]
    cases hgives : givesWay rootWritten (name :: above) with
    | true =>
      obtain ⟨hname, habove⟩ : isWrapperTag name.tag ∧ givesWay rootWritten above := by
        rwa [givesWay_cons, Bool.and_eq_true] at hgives
      rw [Tree.WrappersBare] at hbare
      obtain rfl : contents = [] := hbare.1 hname
      have hdropped : Visit.dropped rootWritten ⟨above, .element name attributes⟩ := hgives
      have hbelow : (name :: above).all (isWrapperTag ·.tag) := by
        rw [List.all_cons, hname, hwrappers, Bool.and_true]
      -- neither the wrapper nor what is above it counts for the depth of the children
      have hdepth : depthBelow rootWritten above = depthBelow rootWritten (name :: above) := by
        rw [depthBelow_of_givesWay hgives, depthBelow_of_givesWay habove]
      rw [if_pos rfl, hdepth, listAll_collectAll children hbelow hbare.2.2, Tree.visits, visitsAll,
        List.nil_append, List.filterMap_cons_none (listed?_of_dropped hdropped)]
    | false =>
      rw [if_neg Bool.false_ne_true]
      apply listAll_ofTree
      rintro _ ⟨rfl⟩
      exact hgives
  | text value => exact listAll_ofTree (.text value) nofun
  | comment value => exact listAll_ofTree (.comment value) nofun
  | doctype => rfl
  | instruction => rfl

/-- Collecting lists what the visits of a document say, as long as there are wrappers only above. -/
theorem listAll_collectAll {above : List Html.Name} (trees : List Tree)
    (hwrappers : above.all (isWrapperTag ·.tag)) (hbare : WrappersBareAll trees) :
    listAll (depthBelow rootWritten above) (Node.collectAll rootWritten trees) =
      (visitsAll above trees).filterMap (Visit.listed? rootWritten) := by
  cases trees with
  | nil => rfl
  | cons tree rest =>
    rw [WrappersBareAll] at hbare
    rw [Node.collectAll, listAll_append, listAll_collect tree hwrappers hbare.1,
      listAll_collectAll rest hwrappers hbare.2, visitsAll, List.filterMap_append]

end

/-- The nodes of a document are the one forest that is listed as the document is, but for what is dropped:
document types, instructions, blank texts and, unless the source wrote the root, the wrappers with wrappers
only above. A node stands as deep as there are elements above it that stay. -/
theorem eq_collectAll_iff (rootWritten : Bool) {trees : List Tree} (hbare : WrappersBareAll trees)
    (nodes : List Node) :
    nodes = Node.collectAll rootWritten trees ↔
      listAll 0 nodes = (visitsAll [] trees).filterMap (Visit.listed? rootWritten) := by
  have hlisting : listAll 0 (Node.collectAll rootWritten trees) =
      (visitsAll [] trees).filterMap (Visit.listed? rootWritten) :=
    listAll_collectAll trees (rfl : ([] : List Html.Name).all (isWrapperTag ·.tag) = true) hbare
  rw [← hlisting, (listAll_injective 0).eq_iff]

/-- A document in which a wrapper holds a blank text, a template has contents and children, and another body
stands below an element that stays. -/
def wrapped : List Tree := [
  .doctype, .comment " c ",
  .element ⟨.html, "html"⟩ [] [] [
    .element ⟨.html, "body"⟩ [⟨"class", "x"⟩] [] [
      .text "\n\u3000", .instruction,
      .element ⟨.html, "template"⟩ [⟨"v-if", "ok"⟩] [.text " a "] [.comment "late"],
      .element ⟨.html, "p"⟩ [] [] [.element ⟨.html, "body"⟩ [] [] []]]]]

theorem eq_collectAll_of_wrappers :
    WrappersBareAll wrapped ∧
      [.comment " c " ⟨1, 1⟩,
        .element { tag := "template", attributes := [⟨"v-if", "ok", ⟨1, 1⟩⟩], location := ⟨1, 1⟩ }
          [.text " a " ⟨1, 1⟩, .comment "late" ⟨1, 1⟩],
        .element { tag := "p", location := ⟨1, 1⟩ }
          [.element { tag := "body", location := ⟨1, 1⟩ } []]] =
        Node.collectAll false wrapped := by
  have hbare : WrappersBareAll wrapped := by
    simp [wrapped, WrappersBareAll, Tree.WrappersBare, isWrapperTag]
  exact ⟨hbare, (eq_collectAll_iff false hbare _).mpr (by decide +kernel)⟩

end

end ComponentTags
