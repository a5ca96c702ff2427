import ComponentTags.Forest
import ComponentTags.Template

/-!
# Compiling templates

A template is read, and then every element of it is resolved. Templates do not depend on each other.
-/

namespace ComponentTags

/-- Reads a template and resolves it. -/
def compile (host : Host) (options : Options) (source : String) : Template × List Notice :=
  let template := Template.parse source
  let (nodes, notices) := resolveAll host options template.nodes
  ({ template with nodes }, notices)

/-- Compiles some templates; the warnings are those of the first, then those of the second and so
on. -/
def compileAll (host : Host) (options : Options) (sources : List String) :
    List Template × List Notice :=
  let results := sources.map (compile host options)
  (results.map (·.1), results.flatMap (·.2))

end ComponentTags
