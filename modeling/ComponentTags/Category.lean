import ComponentTags.Text.Fold

/-!
# Tag categories

Where a tag name falls before any registry is asked. Common markup tags never stand for a component
by name, nor do the reserved tags of the template language; every other tag may. Both tables match
in any casing.
-/

namespace ComponentTags

/-- Where a tag name falls. -/
inductive Category where
  /-- A markup tag too common to be looked up. -/
  | native
  /-- A tag that controls the template itself. -/
  | reserved
  /-- Any other tag: it may name a component. -/
  | custom
deriving DecidableEq, Repr

/-- The markup tags that are never looked up. -/
def nativeTags : List String := [
  "div", "p", "span", "img", "a", "b", "i", "br", "ul", "ol", "li", "h1", "h2", "h3", "h4", "h5",
  "h6", "code", "pre", "table", "th", "td", "tr", "form", "label", "input", "select", "option",
  "nav", "article", "section", "header", "footer"]

/-- The tags with a meaning of their own in a template. -/
def reservedTags : List String := ["slot", "partial", "component"]

/-- Whether the tag is in the native table, in any casing. -/
def isNativeTag (tag : String) : Bool :=
  nativeTags.any (Text.foldsTo tag)

/-- Whether the tag is in the reserved table, in any casing. -/
def isReservedTag (tag : String) : Bool :=
  reservedTags.any (Text.foldsTo tag)

/-- The category of a tag name. -/
def Category.ofTag (tag : String) : Category :=
  if isNativeTag tag then .native else if isReservedTag tag then .reserved else .custom

end ComponentTags
