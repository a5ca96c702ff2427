/-!
# Elements and nodes

The forest that templates are read into. An element's own data (tag, attributes, place, resolution)
is kept apart from its children: resolving looks only at the former, so it cannot depend on the
latter.
-/

namespace ComponentTags

/-- A place in a source file. -/
structure Location where
  line : UInt32 := 0
  column : UInt32 := 0
deriving DecidableEq, Repr, Inhabited

/-- An attribute of an element. -/
structure Attribute where
  name : String
  value : String
  location : Location := {}
deriving DecidableEq, Repr, Inhabited

/-- What an element stands for. -/
inductive Resolution where
  /-- Plain markup, or a tag nothing is known of. -/
  | plain
  /-- The component with this id. -/
  | static (id : String)
  /-- The component that this expression names at run time. -/
  | dynamic (expression : String)
deriving DecidableEq, Repr, Inhabited

namespace Resolution

/-- Whether the element stands for a component. -/
def isComponent : Resolution → Bool
  | plain => false
  | static _ | dynamic _ => true

/-- Whether the component is chosen at run time. -/
def isDynamic : Resolution → Bool
  | dynamic _ => true
  | plain | static _ => false

/-- The component's id, or the expression that names it. -/
def id? : Resolution → Option String
  | plain => none
  | static id => some id
  | dynamic expression => some expression

end Resolution

/-- An element without its children. The tag keeps the casing it was read in. -/
structure Element where
  tag : String
  attributes : List Attribute := []
  location : Location := {}
  resolution : Resolution := .plain
deriving DecidableEq, Repr, Inhabited

namespace Element

/-- Adds an attribute at the end, placed where the element is. -/
def withAttribute (e : Element) (name value : String) : Element :=
  { e with attributes := e.attributes ++ [{ name, value, location := e.location }] }

/-- Whether the element has any attribute. -/
def hasAttributes (e : Element) : Bool :=
  !e.attributes.isEmpty

/-- The value of the first attribute of exactly this name. -/
def attribute? (e : Element) (name : String) : Option String :=
  (e.attributes.find? (·.name == name)).map (·.value)

/-- The element without the attributes of this name. -/
def withoutAttribute (e : Element) (name : String) : Element :=
  { e with attributes := e.attributes.filter (·.name != name) }

/-- The value of the bound form of an attribute: the earliest of the prefixes for which the element
has an attribute of that prefix and name decides. -/
def boundAttribute? (e : Element) (prefixes : List String) (name : String) : Option String :=
  prefixes.findSome? fun front => e.attribute? (front ++ name)

end Element

/-- A node of a template. -/
inductive Node where
  | element (element : Element) (children : List Node)
  | text (value : String) (location : Location)
  | comment (value : String) (location : Location)
deriving Repr, Inhabited

/-- A template: the text it was read from and its nodes. -/
structure Template where
  source : String
  nodes : List Node
deriving Repr, Inhabited

end ComponentTags
