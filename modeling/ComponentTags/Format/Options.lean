import ComponentTags.Json.Reader
import ComponentTags.Options
import ComponentTags.Warning

/-!
# Components and options as JSON

A registry is an object of components by id. Loading one refuses the ids that may not be registered
and says so in the log; the rest of the text still loads. All fields of a component and of options
may be left out.
-/

namespace ComponentTags

open Json

/-! ## Components and registries -/

/-- A component as JSON. -/
def Component.toJson (c : Component) : Value :=
  .object [("name", .string c.name), ("path", .string c.path)]

/-- A component of which some is read. -/
structure ComponentDraft where
  name : Option String := none
  path : Option String := none

/-- Reads a component. -/
def Component.read : Scan Component :=
  Source.record {
    name := "ComponentDescriptor"
    fields := [
      .of "name" ComponentDraft.name (fun d name => { d with name }) Source.string,
      .of "path" ComponentDraft.path (fun d path => { d with path }) Source.string]
    blank := {}
    finish := fun _ d => .ok { name := d.name.getD "", path := d.path.getD "" } }

/-- A map of texts as JSON, in the order of its keys. -/
def stringsToJson (d : Dict String) : Value :=
  .object (d.toList.map fun (key, s) => (key, .string s))

/-- The map of some entries; of several with one key the last counts. -/
def Dict.ofEntries {α : Type} (entries : List (String × α)) : Dict α :=
  entries.foldl (fun d (key, a) => d.insert key a) ∅

/-- A registry as JSON, in the order of its ids. -/
def Registry.toJson (r : Registry) : Value :=
  .object (r.components.toList.map fun (id, c) => (id, c.toJson))

/-- The log entry for an id that a registry refused. -/
def Event.ofRefusal (id : String) (failure : Failure) : Event :=
  .refusedId id failure.message

/-- Reads a registry, with what the log says of the ids it refused. -/
def Registry.read : Scan (Registry × List Event) := do
  let entries ← Scan.map Component.read
  let (registry, refused) := ofEntries (Dict.ofEntries entries).toList
  return (registry, refused.map fun (id, failure) => .ofRefusal id failure)

/-! ## Options -/

/-- Options as JSON. -/
def Options.toJson (o : Options) : Value :=
  .object [
    ("components", o.components.toJson),
    ("componentNameMap", match o.nameMap with
      | some names => stringsToJson names
      | none => .null),
    ("diagnostics", .bool o.diagnostics),
    ("bindPrefixes", .strings o.bindPrefixes)]

/-- Options of which some is read. -/
structure OptionsDraft where
  components : Option (Registry × List Event) := none
  nameMap : Option (Option (Dict String)) := none
  diagnostics : Option Bool := none
  bindPrefixes : Option (List String) := none

/-- Reads options, with what the log says of the ids that their registry refused. What is left out is
as in the default options, which are those of a debug build. -/
def Options.read : Scan (Options × List Event) :=
  Source.record {
    name := "CompileOptions"
    fields := [
      .of "components" OptionsDraft.components (fun d components => { d with components })
        Registry.read,
      .of "componentNameMap" OptionsDraft.nameMap (fun d nameMap => { d with nameMap := some nameMap })
        (Scan.nullable (Dict.ofEntries <$> Scan.map Scan.string)),
      .of "diagnostics" OptionsDraft.diagnostics (fun d diagnostics => { d with diagnostics })
        Scan.bool,
      .of "bindPrefixes" OptionsDraft.bindPrefixes (fun d bindPrefixes => { d with bindPrefixes })
        (Source.list Source.string)]
    blank := {}
    finish := fun _ d =>
      let standard : Options := {}
      .ok ({
        components := (d.components.map (·.1)).getD standard.components
        nameMap := d.nameMap.getD standard.nameMap
        diagnostics := d.diagnostics.getD standard.diagnostics
        bindPrefixes := d.bindPrefixes.getD standard.bindPrefixes },
        (d.components.map (·.2)).getD []) }

/-- Loads options from a text and fills in the spellings to suggest. -/
def Options.load (text : String) : Except Failure (Options × List Event) :=
  match Scan.whole Options.read text with
  | .ok (options, log) => .ok (options.withNameMap, log)
  | .error fault => .error (.invalidOptions ("Invalid options: " ++ fault.message))

end ComponentTags
