import ComponentTags.Forest
import ComponentTags.Proofs.Resolve.Outcome

/-!
# The elements of a forest

A forest lists its elements in document order, at whatever depth they stand, and is mapped by changing
each of them where it stands. The walk that resolves a forest is such a map: it treats each element on
its own, as `Element.settle` does, and leaves everything else as it was (`resolveAll_fst`). Its
warnings are those of the elements, in the order of the list (`resolveAll_snd`), and the components
are collected in that order too (`componentsOf_eq`).
-/

namespace ComponentTags

mutual

/-- The elements of a node, parents before children. -/
def Node.elements : Node → List Element
  | .element e children => e :: elementsOf children
  | .text _ _ | .comment _ _ => []

/-- The elements of a forest, in document order. -/
def elementsOf : List Node → List Element
  | [] => []
  | node :: rest => node.elements ++ elementsOf rest

end

mutual

/-- The node with each of its elements changed by itself. Texts, comments and the order of children
stay. -/
def Node.map (f : Element → Element) : Node → Node
  | .element e children => .element (f e) (mapAll f children)
  | .text value location => .text value location
  | .comment value location => .comment value location

/-- The forest with each of its elements changed by itself. -/
def mapAll (f : Element → Element) : List Node → List Node
  | [] => []
  | node :: rest => node.map f :: mapAll f rest

end

/-! ## Mapping -/

section

variable {f g : Element → Element}

mutual

theorem Node.elements_map (node : Node) : (node.map f).elements = node.elements.map f := by
  cases node with
  | element e children => rw [Node.map, Node.elements, Node.elements, List.map_cons, elementsOf_mapAll]
  | text value location => rw [Node.map, Node.elements, List.map_nil]
  | comment value location => rw [Node.map, Node.elements, List.map_nil]

/-- Mapping changes each element and neither adds, drops nor moves one. -/
theorem elementsOf_mapAll (nodes : List Node) :
    elementsOf (mapAll f nodes) = (elementsOf nodes).map f := by
  cases nodes with
  | nil => rw [mapAll, elementsOf, List.map_nil]
  | cons node rest =>
    rw [mapAll, elementsOf, elementsOf, List.map_append, node.elements_map, elementsOf_mapAll]

end

mutual

theorem Node.map_map (node : Node) : (node.map f).map g = node.map (g ∘ f) := by
  cases node with
  | element e children => rw [Node.map, Node.map, Node.map, mapAll_mapAll, Function.comp_apply]
  | text value location => rw [Node.map, Node.map, Node.map]
  | comment value location => rw [Node.map, Node.map, Node.map]

/-- Mapping twice is mapping once. -/
theorem mapAll_mapAll (nodes : List Node) : mapAll g (mapAll f nodes) = mapAll (g ∘ f) nodes := by
  cases nodes with
  | nil => rw [mapAll, mapAll, mapAll]
  | cons node rest => rw [mapAll, mapAll, mapAll, node.map_map, mapAll_mapAll]

end

end

/-! ## Resolving -/

section

variable {host : Host} {options : Options}

/-- The element as resolving leaves it, with its resolution noted on it. -/
def Element.settle (host : Host) (options : Options) (e : Element) : Element :=
  { (resolve host options e).element with resolution := (resolve host options e).resolution }

@[simp]
theorem Element.settle_attributes (e : Element) :
    (e.settle host options).attributes = (resolve host options e).element.attributes := by
  simp only [Element.settle]

@[simp]
theorem Element.settle_resolution (e : Element) :
    (e.settle host options).resolution = (resolve host options e).resolution := by
  simp only [Element.settle]

theorem Element.settle_tag (e : Element) : (e.settle host options).tag = e.tag := by
  rw [Element.settle, decided_resolve.element_eq]

theorem Element.settle_location (e : Element) : (e.settle host options).location = e.location := by
  rw [Element.settle, decided_resolve.element_eq]

/-- The warning an element gives rise to, with its place. -/
def Element.notice? (host : Host) (options : Options) (e : Element) : Option Notice :=
  (resolve host options e).warning.map (·, e.location)

mutual

theorem Node.resolve_eq (node : Node) :
    node.resolve host options =
      (node.map (Element.settle host options),
        node.elements.filterMap (Element.notice? host options)) := by
  cases node with
  | element e children =>
    rw [Node.resolve, resolveAll_eq children, Node.map, Node.elements, List.filterMap_cons,
      Element.notice?]
    -- the element's own warning, if there is one, comes before those from below
    cases (ComponentTags.resolve host options e).warning <;> rfl
  | text value location => rw [Node.resolve, Node.map, Node.elements, List.filterMap_nil]
  | comment value location => rw [Node.resolve, Node.map, Node.elements, List.filterMap_nil]

theorem resolveAll_eq (nodes : List Node) :
    resolveAll host options nodes =
      (mapAll (Element.settle host options) nodes,
        (elementsOf nodes).filterMap (Element.notice? host options)) := by
  cases nodes with
  | nil => rw [resolveAll, mapAll, elementsOf, List.filterMap_nil]
  | cons node rest =>
    rw [resolveAll, node.resolve_eq, resolveAll_eq rest, mapAll, elementsOf, List.filterMap_append]

end

/-- Resolving a forest changes each element on its own. -/
theorem resolveAll_fst (nodes : List Node) :
    (resolveAll host options nodes).1 = mapAll (Element.settle host options) nodes := by
  rw [resolveAll_eq]

/-- The warnings come from the elements of the forest, one at most from each, in document order. -/
theorem resolveAll_snd (nodes : List Node) :
    (resolveAll host options nodes).2 = (elementsOf nodes).filterMap (Element.notice? host options) := by
  rw [resolveAll_eq]

/-- Resolving a forest settles each of its elements and no other. -/
theorem elementsOf_resolveAll (nodes : List Node) :
    elementsOf (resolveAll host options nodes).1 =
      (elementsOf nodes).map (Element.settle host options) := by
  rw [resolveAll_fst, elementsOf_mapAll]

end

/-! ## Components -/

mutual

theorem Node.components_eq (node : Node) :
    node.components =
      (node.elements.map fun e => (e.tag, e.resolution)).filter (·.2.isComponent) := by
  cases node with
  | element e children =>
    rw [Node.components, Node.elements, List.map_cons, List.filter_cons, componentsOf_eq children]
    split <;> rfl
  | text value location => rw [Node.components, Node.elements, List.map_nil, List.filter_nil]
  | comment value location => rw [Node.components, Node.elements, List.map_nil, List.filter_nil]

/-- The components of a forest are those of its elements that stand for one, in document order. -/
theorem componentsOf_eq (nodes : List Node) :
    componentsOf nodes =
      ((elementsOf nodes).map fun e => (e.tag, e.resolution)).filter (·.2.isComponent) := by
  cases nodes with
  | nil => rw [componentsOf, elementsOf, List.map_nil, List.filter_nil]
  | cons node rest =>
    rw [componentsOf, elementsOf, List.map_append, List.filter_append, node.components_eq,
      componentsOf_eq rest]

end

end ComponentTags
