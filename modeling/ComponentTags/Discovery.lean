import ComponentTags.Discovery.DeclaredName
import ComponentTags.Discovery.FileTree
import ComponentTags.Json.Reader
import ComponentTags.Registry
import ComponentTags.Warning

/-!
# Discovering components

Every file below a root that has one of the selected extensions is a component. It is registered under
its file name without the extension, and under the name it declares. Files are taken in the order of
their places, so the last file in that order has an id that several claim.

A file that cannot be read and an id that may not be registered are passed over, with a word in the
log. A file whose name gives no id, since it is no text without the extension, is passed over in
silence, whatever name it declares.
-/

namespace ComponentTags.Discovery

open Text

/-- Which files are components. -/
structure Settings where
  /-- File extensions, without the dot. -/
  extensions : List String := ["vue"]
deriving DecidableEq, Repr

/-- The ids that a component has by its file's name and text. -/
def idsOf (stem text : String) : List String :=
  stem :: (declaredName? text).toList.filter (· != stem)

/-- Registers the component of a file under one id. -/
def registerAs (path : String) (found : Registry × List Event) (id : String) :
    Registry × List Event :=
  match found.1.register id { name := id, path } with
  | (.ok _, registry) => (registry, found.2)
  | (.error failure, registry) => (registry, found.2 ++ [.file path failure.message])

/-- Registers the component of a file. -/
def registerFile (root : Path) (found : Registry × List Event) (file : SourceFile) :
    Registry × List Event :=
  let path := lossy (pathBelow root file.place)
  match file.text with
  | some text =>
    match text? file.stem with
    | some stem => (idsOf stem text).foldl (registerAs path) found
    | none => found
  | none =>
    (found.1,
      found.2 ++ [.file path "Failed to read component: stream did not contain valid UTF-8"])

/-- The files that are components, in the order of their places. -/
def selectFiles (settings : Settings) (files : List SourceFile) : List SourceFile :=
  (files.filter fun file => (file.extension?.bind text?).any settings.extensions.contains).mergeSort
    fun a b => a.place.before b.place

/-- The components below a root, and what the log says. There are none below a root that is missing. -/
def discover (settings : Settings) (path : Path) : Root → Except Failure (Registry × List Event)
  | .missing => .ok (.empty, [])
  | .file => .error (.notADirectory (lossy path))
  | .folder files => .ok ((selectFiles settings files).foldl (registerFile path) (.empty, []))

/-! ## Settings as JSON -/

open Json

/-- Settings as JSON. -/
def Settings.toJson (s : Settings) : Value :=
  .object [("extensions", .strings s.extensions)]

/-- Settings of which some is read. -/
structure SettingsDraft where
  extensions : Option (List String) := none

/-- Reads settings. -/
def Settings.read : Scan Settings :=
  Source.record {
    name := "DiscoveryOptions"
    fields := [
      .of "extensions" SettingsDraft.extensions (fun d extensions => { d with extensions })
        (Source.list Source.string)]
    blank := {}
    finish := fun _ d =>
      let standard : Settings := {}
      .ok { extensions := d.extensions.getD standard.extensions } }

end ComponentTags.Discovery
