import ComponentTags.Element
import ComponentTags.Host
import ComponentTags.Options
import ComponentTags.Warning

/-!
# Resolving one element

Decides whether an element is plain markup or a component.

* A tag outside the native and reserved tables is looked up; if nothing is found, the `is` override
  decides; if there is none, the element is plain and may deserve a warning.
* A native or reserved tag is a component only by its `is` override.

A literal `is` that names a component is used up: it is removed from the element. Nothing else about
the element changes.
-/

namespace ComponentTags

/-- What an id leads to. -/
abbrev Lookup := String → Option Component

/-- An element's resolution, the element as it is left, and the warning it gave rise to. -/
structure Outcome where
  resolution : Resolution
  element : Element
  warning : Option Warning := none
deriving DecidableEq, Repr

/-- The name of the attribute that overrides what a tag stands for. -/
def overrideName : String := "is"

/-- What the `is` override makes of an element, if anything. A literal value wins over a bound one,
and a literal value that leads nowhere hides the bound one. -/
def override? (lookup : Lookup) (prefixes : List String) (e : Element) :
    Option (Resolution × Element) :=
  match e.attribute? overrideName with
  | some id =>
    if !id.isEmpty && (lookup id).isSome then some (.static id, e.withoutAttribute overrideName)
    else none
  | none => (e.boundAttribute? prefixes overrideName).map fun value => (.dynamic value, e)

/-- The warning for a lowercase tag that nothing is known of: the spelling the options suggest, or
else that the host does not know the tag. -/
def unresolvedWarning? (host : Host) (options : Options) (tag : String) : Option Warning :=
  if options.diagnostics then
    match options.nameMap.bind (·[tag]?) with
    | some expected => some (.misCased tag expected)
    | none => if host.isUnknown tag then some (.unknown tag) else none
  else none

/-- Resolves an element with a lookup of the caller's. Only the suggested spelling of a warning still
comes from the options. -/
def resolveWith (host : Host) (lookup : Lookup) (options : Options) (e : Element) : Outcome :=
  let tag := Text.lowercase e.tag
  let overridden := if e.hasAttributes then override? lookup options.bindPrefixes e else none
  if tag.isEmpty then { resolution := .plain, element := e }
  else
    match Category.ofTag tag with
    | .custom =>
      if (lookup tag).isSome then { resolution := .static tag, element := e }
      else
        match overridden with
        | some (resolution, element) => { resolution, element }
        | none =>
          { resolution := .plain, element := e, warning := unresolvedWarning? host options tag }
    | .native | .reserved =>
      match overridden with
      | some (resolution, element) => { resolution, element }
      | none => { resolution := .plain, element := e }

/-- Resolves an element against the components of the options. -/
def resolve (host : Host) (options : Options) (e : Element) : Outcome :=
  resolveWith host options.components.lookup options e

end ComponentTags
