import ComponentTags.Element
import ComponentTags.Json.Reader

/-!
# Nodes as JSON

How locations, attributes, resolutions, elements, nodes and templates are written and read. A node
has the fields of what it is and a `type` among them; a resolution is a `kind` with an `id`. Only
tags, attribute names, values of texts and comments, and both fields of a location and of a template
are required.
-/

namespace ComponentTags

open Json

/-! ## Locations -/

/-- A location as JSON. -/
def Location.toJson (l : Location) : Value :=
  .object [("line", .natural l.line.toNat), ("column", .natural l.column.toNat)]

/-- A location of which some is read. -/
structure LocationDraft where
  line : Option UInt32 := none
  column : Option UInt32 := none

/-- Reads a location. -/
def Location.read {m : Type → Type} [Source m] : m Location :=
  Source.record {
    name := "SourceLocation"
    fields := [
      .of "line" LocationDraft.line (fun d line => { d with line }) Source.word32,
      .of "column" LocationDraft.column (fun d column => { d with column }) Source.word32]
    blank := {}
    finish := fun missing d => do
      let line ← require missing 0 "line" d.line
      let column ← require missing 1 "column" d.column
      return { line, column } }

/-! ## Attributes -/

/-- An attribute as JSON. -/
def Attribute.toJson (a : Attribute) : Value :=
  .object [("name", .string a.name), ("value", .string a.value), ("location", a.location.toJson)]

/-- An attribute of which some is read. -/
structure AttributeDraft where
  name : Option String := none
  value : Option String := none
  location : Option Location := none

/-- Reads an attribute. -/
def Attribute.read {m : Type → Type} [Source m] : m Attribute :=
  Source.record {
    name := "AttributeIR"
    fields := [
      .of "name" AttributeDraft.name (fun d name => { d with name }) Source.string,
      .of "value" AttributeDraft.value (fun d value => { d with value }) Source.string,
      .of "location" AttributeDraft.location (fun d location => { d with location })
        Location.read]
    blank := {}
    finish := fun missing d => do
      let name ← require missing 0 "name" d.name
      return { name, value := d.value.getD "", location := d.location.getD {} } }

/-! ## Resolutions -/

/-- A resolution as JSON. -/
def Resolution.toJson : Resolution → Value
  | plain => .object [("kind", .string "none")]
  | static id => .object [("kind", .string "static"), ("id", .string id)]
  | dynamic expression => .object [("kind", .string "dynamic"), ("id", .string expression)]

/-- The kinds of resolutions and what they carry. -/
def Resolution.choices : Choice Resolution where
  name := "Resolution"
  kindKey := "kind"
  contentKey := "id"
  variants := [("none", .none "None" .plain), ("static", .string .static),
    ("dynamic", .string .dynamic)]

/-- Reads a resolution. -/
def Resolution.read {m : Type → Type} [Source m] : m Resolution :=
  Source.choice choices

/-! ## Texts and comments -/

/-- What texts and comments consist of. -/
structure Passage where
  value : String
  location : Location := {}
deriving DecidableEq, Repr

/-- The fields of a passage as JSON. -/
def Passage.fields (p : Passage) : List (String × Value) :=
  [("value", .string p.value), ("location", p.location.toJson)]

/-- A passage as JSON. -/
def Passage.toJson (p : Passage) : Value :=
  .object p.fields

/-- A passage of which some is read. -/
structure PassageDraft where
  value : Option String := none
  location : Option Location := none

/-- Reads a passage that goes by the given name in messages. -/
def Passage.readAs {m : Type → Type} [Source m] (name : String) : m Passage :=
  Source.record {
    name
    fields := [
      .of "value" PassageDraft.value (fun d value => { d with value }) Source.string,
      .of "location" PassageDraft.location (fun d location => { d with location })
        Location.read]
    blank := {}
    finish := fun missing d => do
      let value ← require missing 0 "value" d.value
      return { value, location := d.location.getD {} } }

/-- Reads what a text consists of. -/
def Passage.readText {m : Type → Type} [Source m] : m Passage :=
  readAs "TextNode"

/-- Reads what a comment consists of. -/
def Passage.readComment {m : Type → Type} [Source m] : m Passage :=
  readAs "CommentNode"

/-! ## Elements and nodes -/

/-- The fields of an element as JSON, given those of its children. -/
def Element.fields (e : Element) (children : List Value) : List (String × Value) :=
  [("tag", .string e.tag), ("attributes", .array (e.attributes.map (·.toJson))),
    ("children", .array children), ("location", e.location.toJson),
    ("resolution", e.resolution.toJson)]

mutual

/-- A node as JSON. -/
def Node.toJson : Node → Value
  | .element e children => .object (("type", .string "element") :: e.fields (nodesToJson children))
  | .text value location =>
    .object (("type", .string "text") :: Passage.fields { value, location })
  | .comment value location =>
    .object (("type", .string "comment") :: Passage.fields { value, location })

/-- The nodes of a forest as JSON. -/
def nodesToJson : List Node → List Value
  | [] => []
  | node :: rest => node.toJson :: nodesToJson rest

end

/-- An element with its children as JSON. -/
def Element.toJson (e : Element) (children : List Node) : Value :=
  .object (e.fields (nodesToJson children))

/-- An element of which some is read. -/
structure ElementDraft where
  tag : Option String := none
  attributes : Option (List Attribute) := none
  children : Option (List Node) := none
  location : Option Location := none
  resolution : Option Resolution := none

/-- Reads an element with its children, given how one of them is read. -/
def Element.readWith {m : Type → Type} [Source m] (node : m Node) : m (Element × List Node) :=
  Source.record {
    name := "ElementNode"
    fields := [
      .of "tag" ElementDraft.tag (fun d tag => { d with tag }) Source.string,
      .of "attributes" ElementDraft.attributes (fun d attributes => { d with attributes })
        (Source.list Attribute.read),
      .of "children" ElementDraft.children (fun d children => { d with children })
        (Source.list node),
      .of "location" ElementDraft.location (fun d location => { d with location })
        Location.read,
      .of "resolution" ElementDraft.resolution (fun d resolution => { d with resolution })
        Resolution.read]
    blank := {}
    finish := fun missing d => do
      let tag ← require missing 0 "tag" d.tag
      return ({
        tag
        attributes := d.attributes.getD []
        location := d.location.getD {}
        resolution := d.resolution.getD .plain }, d.children.getD []) }

/-- What a node is. -/
inductive NodeType where
  | element
  | text
  | comment
deriving DecidableEq, Repr

/-- The types of nodes by name. -/
def NodeType.names : List (String × NodeType) :=
  [("element", element), ("text", text), ("comment", comment)]

/-- The name that nodes go by in messages. -/
def nodeName : String := "TemplateNode"

/-- Reads what a node of some type consists of, given how a node below it is read. -/
def NodeType.readFields (type : NodeType) (below : Kept Node) : Kept Node :=
  match type with
  | element => (fun (e, children) => .element e children) <$> Element.readWith below
  | text => (fun p => .text p.value p.location) <$> Passage.readText
  | comment => (fun p => .comment p.value p.location) <$> Passage.readComment

/-- Reads a node from a kept value that nests less deep than the given number. -/
def Node.readKept : Nat → Kept Node
  | 0 => Kept.wrongType nodeName
  | depth + 1 => do
    let (type, fields) ← Kept.kindWithFields nodeName "type" NodeType.names
    (type.readFields (readKept depth) fields : Except Cause Node)

/-- Reads a node: its type may come late, so its other fields are kept until it is known. -/
def Node.read : Scan Node := do
  let (type, fields) ← Scan.kindWithFields nodeName "type" NodeType.names
  Scan.ofExcept (type.readFields (readKept fields.depth) fields)

/-- Reads an element with its children. -/
def Element.read : Scan (Element × List Node) :=
  readWith Node.read

/-- Reads a forest. -/
def readNodes : Scan (List Node) :=
  Source.list Node.read

/-! ## Templates -/

/-- A template as JSON. -/
def Template.toJson (t : Template) : Value :=
  .object [("raw", .string t.source), ("nodes", .array (nodesToJson t.nodes))]

/-- A template of which some is read. -/
structure TemplateDraft where
  source : Option String := none
  nodes : Option (List Node) := none

/-- Reads a template. -/
def Template.read : Scan Template :=
  Source.record {
    name := "TemplateIR"
    fields := [
      .of "raw" TemplateDraft.source (fun d source => { d with source }) Source.string,
      .of "nodes" TemplateDraft.nodes (fun d nodes => { d with nodes }) readNodes]
    blank := {}
    finish := fun missing d => do
      let source ← require missing 0 "raw" d.source
      let nodes ← require missing 1 "nodes" d.nodes
      return { source, nodes } }

end ComponentTags
