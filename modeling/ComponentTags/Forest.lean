import ComponentTags.Resolve

/-!
# Resolving a forest

Every element of a forest is resolved once, parents before their children, and the resolution is
noted on the element. The warnings come in the same order.
-/

namespace ComponentTags

/-- A warning and the place of the element it is about. -/
abbrev Notice := Warning × Location

mutual

/-- Resolves a node and all below it. -/
def Node.resolve (host : Host) (options : Options) : Node → Node × List Notice
  | .element e children =>
    let outcome := ComponentTags.resolve host options e
    let (below, notices) := resolveAll host options children
    (.element { outcome.element with resolution := outcome.resolution } below,
      (outcome.warning.map (·, e.location)).toList ++ notices)
  | .text value location => (.text value location, [])
  | .comment value location => (.comment value location, [])

/-- Resolves the nodes of a forest from left to right. -/
def resolveAll (host : Host) (options : Options) : List Node → List Node × List Notice
  | [] => ([], [])
  | node :: rest =>
    let (first, notices) := node.resolve host options
    let (others, more) := resolveAll host options rest
    (first :: others, notices ++ more)

end

mutual

/-- The tags and resolutions of the components in a node, parents before children. -/
def Node.components : Node → List (String × Resolution)
  | .element e children =>
    (if e.resolution.isComponent then [(e.tag, e.resolution)] else []) ++ componentsOf children
  | .text _ _ | .comment _ _ => []

/-- The tags and resolutions of the components in a forest, in document order. -/
def componentsOf : List Node → List (String × Resolution)
  | [] => []
  | node :: rest => node.components ++ componentsOf rest

end

/-- The tags and resolutions of the components in a template, in document order. -/
def Template.components (t : Template) : List (String × Resolution) :=
  componentsOf t.nodes

end ComponentTags
