import ComponentTags.Category
import ComponentTags.Failure
import ComponentTags.Name
import Std.Data.ExtTreeMap.Lemmas

/-!
# The component registry

Components by id. Native and reserved tag names are refused as ids, since no template could reach
them. An id is looked up as written, then in camel case, then with a capital at its head, so
`my-widget` finds a component registered as `myWidget` or `MyWidget`.

Registries are maps that are equal as soon as they hold the same components under the same ids.
-/

namespace ComponentTags

/-- Maps from texts, equal when they agree on every key. -/
abbrev Dict (α : Type) := Std.ExtTreeMap String α

/-- The name a component goes by and the file it comes from. -/
structure Component where
  name : String := ""
  path : String := ""
deriving DecidableEq, Repr, Inhabited

/-- Components by id. -/
structure Registry where
  components : Dict Component := ∅
deriving DecidableEq, Inhabited

namespace Registry

/-- The registry without components. -/
def empty : Registry := {}

/-- Puts a component under an id, in place of the one that was there; a native or reserved tag name
is refused. Gives the outcome and the registry after it. -/
def register (r : Registry) (id : String) (component : Component) : Except Failure Unit × Registry :=
  if isNativeTag id || isReservedTag id then (.error (.reservedId id), r)
  else (.ok (), ⟨r.components.insert id component⟩)

/-- The component an id leads to: the id as written, in camel case, or with a capital as well. -/
def lookup (r : Registry) (id : String) : Option Component :=
  let camel := Name.camelize id
  r.components[id]? <|> r.components[camel]? <|> r.components[Name.capitalize camel]?

/-- Whether an id leads to a component. -/
def contains (r : Registry) (id : String) : Bool :=
  (r.lookup id).isSome

/-- The number of components. -/
def size (r : Registry) : Nat :=
  r.components.size

/-- Whether there is no component. -/
def isEmpty (r : Registry) : Bool :=
  r.components.isEmpty

/-- The ids, in order. -/
def ids (r : Registry) : List String :=
  r.components.keys

/-- For each id, what it becomes without hyphens and capitals, with the hyphenated spelling a template
should use. -/
def nameMap (r : Registry) : Dict String :=
  r.ids.foldl (fun names id => names.insert (Name.squash id) (Name.hyphenate id)) ∅

/-- The registry of the entries that may be registered, in turn, and the failures of the others. -/
def ofEntries (entries : List (String × Component)) : Registry × List (String × Failure) :=
  entries.foldl (fun (r, refused) (id, component) =>
    match r.register id component with
    | (.ok _, next) => (next, refused)
    | (.error failure, next) => (next, refused ++ [(id, failure)])) (empty, [])

end Registry

end ComponentTags
