/-!
# Markup tokens

What the characters of a document amount to before any of them is placed in a tree.
-/

namespace ComponentTags.Html

/-- A name with its value. -/
structure Attribute where
  name : String
  value : String
deriving DecidableEq, Repr, Inhabited

/-- A start tag or an end tag, without the brackets. -/
structure Tag where
  name : String
  attributes : List Attribute := []
  selfClosing : Bool := false
deriving DecidableEq, Repr, Inhabited

/-- The tag with an attribute added, unless it has one of that name. -/
def Tag.add (t : Tag) (name value : String) : Tag :=
  if t.attributes.any (·.name == name) then t
  else { t with attributes := t.attributes ++ [⟨name, value⟩] }

/-- The value of the tag's attribute of a name. -/
def Tag.attribute? (t : Tag) (name : String) : Option String :=
  (t.attributes.find? (·.name == name)).map (·.value)

/-- A document type declaration. -/
structure Doctype where
  name : Option String := none
  publicId : Option String := none
  systemId : Option String := none
  /-- Whether the declaration is broken, so that the document is in the old style whatever it says. -/
  broken : Bool := false
deriving DecidableEq, Repr, Inhabited

/-- A token. -/
inductive Token where
  | doctype (d : Doctype)
  | startTag (t : Tag)
  | endTag (t : Tag)
  | comment (text : String)
  | character (c : Char)
  /-- Something malformed that leaves no trace of its own. -/
  | slip
  /-- The end of the document. -/
  | finish
deriving DecidableEq, Repr

end ComponentTags.Html
