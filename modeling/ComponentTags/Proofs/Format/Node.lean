import ComponentTags.Format.Node
import ComponentTags.Proofs.Json.Faithful

/-!
# Templates as JSON

A template that is written is read back as it was, as long as its text does not nest deeper than a
reader goes; a text that does is refused (`Template.whole_read_text`).

Locations, attributes, resolutions, passages and elements are read back from every faithful source. A
node is one only in running text: its type comes among its fields, so what comes after the type is kept
first and read then.
-/

namespace ComponentTags

open Json FaithfulSource

/-! ## What nodes consist of -/

section

variable {m : Type → Type} [Source m] [FaithfulSource m]

theorem Location.takes (l : Location) : Takes (Location.read : m Location) l.toJson l := by
  refine record ⟨some l.line, some l.column⟩ ?_ rfl
  refine .consOf rfl rfl (word32 l.line) ?_
  refine .consOf rfl rfl (word32 l.column) ?_
  exact .nil _

theorem Attribute.takes (a : Attribute) : Takes (Attribute.read : m Attribute) a.toJson a := by
  refine record ⟨some a.name, some a.value, some a.location⟩ ?_ rfl
  refine .consOf rfl rfl (string a.name) ?_
  refine .consOf rfl rfl (string a.value) ?_
  refine .consOf rfl rfl a.location.takes ?_
  exact .nil _

theorem Resolution.takes (r : Resolution) : Takes (Resolution.read : m Resolution) r.toJson r := by
  cases r with
  | plain => exact kind rfl
  | static id => exact kindWithString (c := choices) id (by decide) rfl
  | dynamic expression => exact kindWithString (c := choices) expression (by decide) rfl

theorem Passage.takes (name : String) (p : Passage) :
    Takes (Passage.readAs name : m Passage) p.toJson p := by
  refine record ⟨some p.value, some p.location⟩ ?_ rfl
  refine .consOf rfl rfl (string p.value) ?_
  refine .consOf rfl rfl p.location.takes ?_
  exact .nil _

/-- An element is read back if its children are. -/
theorem Element.takes {node : m Node} {children : List Node} (e : Element)
    (hchildren : List.Forall₂ (Takes node) (nodesToJson children) children) :
    Takes (Element.readWith node) (e.toJson children) (e, children) := by
  have hattributes : List.Forall₂ (Takes (Attribute.read : m Attribute))
      (e.attributes.map (·.toJson)) e.attributes :=
    List.forall₂_map_left_iff.mpr (List.forall₂_same.mpr fun a _ => a.takes)
  refine record
    ⟨some e.tag, some e.attributes, some children, some e.location, some e.resolution⟩ ?_ rfl
  refine .consOf rfl rfl (string e.tag) ?_
  refine .consOf rfl rfl (list hattributes) ?_
  refine .consOf rfl rfl (list hchildren) ?_
  refine .consOf rfl rfl e.location.takes ?_
  refine .consOf rfl rfl e.resolution.takes ?_
  exact .nil _

end

/-! ## Nodes as their type and their fields -/

/-- What a node is. -/
def Node.type : Node → NodeType
  | .element _ _ => .element
  | .text _ _ => .text
  | .comment _ _ => .comment

/-- The name of a type of nodes. -/
def NodeType.label : NodeType → String
  | element => "element"
  | text => "text"
  | comment => "comment"

/-- What a node has below it. -/
def Node.children : Node → List Node
  | .element _ children => children
  | .text _ _ | .comment _ _ => []

/-- The fields of a node as JSON, its type apart. -/
def Node.fields : Node → List (String × Value)
  | .element e children => e.fields (nodesToJson children)
  | .text value location | .comment value location => Passage.fields { value, location }

theorem NodeType.ofName_label (type : NodeType) : ofName NodeType.names type.label = .ok type := by
  cases type <;> rfl

theorem Node.toJson_eq (node : Node) :
    node.toJson = .object (("type", .string node.type.label) :: node.fields) := by
  cases node with
  | element e children => rw [Node.toJson, type, NodeType.label, fields]
  | text value location => rw [Node.toJson, type, NodeType.label, fields]
  | comment value location => rw [Node.toJson, type, NodeType.label, fields]

theorem Node.ne_type_of_mem_fields (node : Node) : ∀ e ∈ node.fields, e.1 ≠ "type" := by
  cases node with
  | element e children => simp [fields, Element.fields]
  | text value location => simp [fields, Passage.fields]
  | comment value location => simp [fields, Passage.fields]

theorem Node.depth_children (node : Node) :
    depthOfItems (nodesToJson node.children) < (Value.object node.fields).depth := by
  cases node with
  | element e children =>
    show depthOfItems (nodesToJson children) < (Value.object (e.fields (nodesToJson children))).depth
    simp only [Element.fields, Value.depth, depthOfEntries]
    omega
  | text value location => exact Nat.succ_pos _
  | comment value location => exact Nat.succ_pos _

theorem Node.depth_toJson (node : Node) : node.toJson.depth = (Value.object node.fields).depth := by
  rw [toJson_eq]
  exact congrArg (· + 1) (Nat.zero_max _)

/-- The fields of a node are read back if what is below it is. -/
theorem Node.takes_readFields {below : Kept Node} (node : Node)
    (hbelow : List.Forall₂ (Takes below) (nodesToJson node.children) node.children) :
    Takes (node.type.readFields below) (.object node.fields) node := by
  cases node with
  | element e children => exact map (fun p : Element × List Node => Node.element p.1 p.2) (e.takes hbelow)
  | text value location =>
    exact map (fun p : Passage => Node.text p.value p.location) (Passage.takes "TextNode" ⟨value, location⟩)
  | comment value location =>
    exact map (fun p : Passage => Node.comment p.value p.location)
      (Passage.takes "CommentNode" ⟨value, location⟩)

/-! ## Nodes that were kept -/

mutual

/-- A node that was kept is read back, as soon as the reader may go as deep as it nests. -/
theorem Node.takes_readKept (node : Node) {depth : Nat} (hdepth : node.toJson.depth ≤ depth) :
    Takes (Node.readKept depth) node.toJson node := by
  have hlt : depthOfItems (nodesToJson node.children) < depth := by
    have hchildren := node.depth_children
    rw [node.depth_toJson] at hdepth
    omega
  obtain _ | depth := depth
  · exact absurd hlt (Nat.not_lt_zero _)
  have hbelow : List.Forall₂ (Takes (Node.readKept depth)) (nodesToJson node.children)
      node.children := by
    cases node with
    | element e children => exact takes_readKept_nodes children (Nat.le_of_lt_succ hlt)
    | text value location => exact .nil
    | comment value location => exact .nil
  have hkind : Kept.Takes (Kept.kindWithFields nodeName "type" NodeType.names) node.toJson
      (node.type, .object node.fields) := by
    rw [node.toJson_eq]
    exact Kept.takes_kindWithFields node.type.ofName_label node.ne_type_of_mem_fields
  show (Kept.kindWithFields nodeName "type" NodeType.names node.toJson >>= fun found =>
    found.1.readFields (Node.readKept depth) found.2) = .ok node
  rw [show Kept.kindWithFields nodeName "type" NodeType.names node.toJson = _ from hkind]
  exact node.takes_readFields hbelow

theorem takes_readKept_nodes (nodes : List Node) {depth : Nat}
    (hdepth : depthOfItems (nodesToJson nodes) ≤ depth) :
    List.Forall₂ (Takes (Node.readKept depth)) (nodesToJson nodes) nodes := by
  cases nodes with
  | nil => exact .nil
  | cons node rest =>
    have hmax : max node.toJson.depth (depthOfItems (nodesToJson rest)) ≤ depth := hdepth
    obtain ⟨hnode, hrest⟩ := Nat.max_le.mp hmax
    exact .cons (node.takes_readKept hnode) (takes_readKept_nodes rest hrest)

end

/-! ## Nodes in running text -/

/-- In running text the fields of a node are written plainly if what is below it is. -/
theorem Node.isPlain_fields (node : Node)
    (hbelow : List.Forall₂ (Takes Node.read) (nodesToJson node.children) node.children) :
    ∀ e ∈ node.fields, e.2.IsPlain := by
  have hplain : (Value.object node.fields).IsPlain := by
    cases node with
    | element e children => exact (e.takes hbelow).plain
    | text value location => exact (Passage.takes (m := Scan) "TextNode" ⟨value, location⟩).plain
    | comment value location =>
      exact (Passage.takes (m := Scan) "CommentNode" ⟨value, location⟩).plain
  cases hplain with
  | object hentries => exact hentries

mutual

theorem Node.takes_read (node : Node) : Takes Node.read node.toJson node := by
  have hbelow : List.Forall₂ (Takes Node.read) (nodesToJson node.children) node.children := by
    cases node with
    | element e children => exact takes_read_nodes children
    | text value location => exact .nil
    | comment value location => exact .nil
  have hkind : Scan.Takes (Scan.kindWithFields nodeName "type" NodeType.names) node.toJson
      (node.type, .object node.fields) := by
    rw [node.toJson_eq]
    exact Scan.takes_kindWithFields node.type.ofName_label (node.isPlain_fields hbelow)
      node.ne_type_of_mem_fields
  -- The fields were kept, and what is below them nests less deep than they do.
  have hfields : node.type.readFields (Node.readKept (Value.object node.fields).depth)
      (.object node.fields) = .ok node :=
    node.takes_readFields (takes_readKept_nodes _ (Nat.le_of_lt node.depth_children))
  refine ⟨hkind.plain, fun {depth} hdepth after hafter => ?_⟩
  refine (hkind.takesAt hdepth after hafter).bind_reads ?_
  dsimp only
  rw [hfields]
  exact Scan.reads_pure node

theorem takes_read_nodes (nodes : List Node) :
    List.Forall₂ (Takes Node.read) (nodesToJson nodes) nodes := by
  cases nodes with
  | nil => exact .nil
  | cons node rest => exact .cons node.takes_read (takes_read_nodes rest)

end

/-! ## Templates -/

theorem Template.takes (t : Template) : Takes Template.read t.toJson t := by
  refine record ⟨some t.source, some t.nodes⟩ ?_ rfl
  refine .consOf rfl rfl (string t.source) ?_
  refine .consOf rfl rfl (list (takes_read_nodes t.nodes)) ?_
  exact .nil _

/-- A template whose text nests at most 127 deep is read back as it was written; from a text that nests
deeper nothing is read. -/
theorem Template.whole_read_text (t : Template) :
    if t.toJson.depth ≤ 127 then Scan.whole Template.read t.toJson.text = .ok t
    else ∃ fault, Scan.whole Template.read t.toJson.text = .error fault := by
  split
  · next h => exact t.takes.whole_eq_ok (by omega)
  · next h => exact t.takes.whole_eq_error (by omega)

end ComponentTags
