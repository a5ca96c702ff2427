import ComponentTags.Registry

/-!
# Options

What a template is resolved under: the components, the spellings that warnings suggest, whether there
are warnings at all, and the prefixes that mark a bound attribute.
-/

namespace ComponentTags

/-- The settings under which templates are resolved. -/
structure Options where
  components : Registry := .empty
  /-- For a lowercase tag without hyphens, the spelling to suggest. -/
  nameMap : Option (Dict String) := none
  /-- Whether warnings are given. By default they are: this is the default of a debug build,
  where that of a release build is that there are none. -/
  diagnostics : Bool := true
  /-- What an attribute's name starts with when its value is an expression. -/
  bindPrefixes : List String := [":", "v-bind:"]
deriving DecidableEq, Inhabited

namespace Options

/-- Default options over some components, with the spellings derived from them. -/
def ofRegistry (components : Registry) : Options :=
  { components, nameMap := some components.nameMap }

/-- The options with the spellings derived from the components, if warnings are on and none are
given. -/
def withNameMap (options : Options) : Options :=
  if options.nameMap.isNone && options.diagnostics then
    { options with nameMap := some options.components.nameMap }
  else options

end Options

end ComponentTags
