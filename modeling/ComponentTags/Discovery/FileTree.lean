import ComponentTags.Text.Utf8

/-!
# Files below a root

A snapshot of a folder: which folders and files it holds and what the files say. Places are lists of
names, outermost first, so that they are compared name by name. Names are bytes: they need not be a
text.
-/

namespace ComponentTags.Discovery

open Text

/-- The name of a file or folder, as its bytes. -/
abbrev FileName := List UInt8

/-- A path as its bytes, in which slashes stand between the names. -/
abbrev Path := List UInt8

/-- A place in a file tree, as the names on the way to it. -/
abbrev Place := List FileName

/-- The byte between two names of a path. -/
def slash : UInt8 := 0x2F

/-- The byte before an extension. -/
def dot : UInt8 := 0x2E

/-- Whether a place comes before another or is the same: the first names that differ decide. -/
def Place.before : Place → Place → Bool
  | [], _ => true
  | _ :: _, [] => false
  | a :: as, b :: bs =>
    match compare a b with
    | .lt => true
    | .gt => false
    | .eq => Place.before as bs

/-- A file with its text, or without one if it cannot be read as text. -/
structure SourceFile where
  place : Place
  text : Option String
deriving DecidableEq, Repr

/-- The folders and files of a tree. Folders on the way to these are there as well. -/
structure FileTree where
  folders : List Place := []
  files : List SourceFile := []
deriving DecidableEq, Repr

/-- What a path leads to. -/
inductive Root where
  | missing
  | file
  /-- A folder with the files below it, placed relative to it. -/
  | folder (files : List SourceFile)
deriving DecidableEq, Repr

/-- The place that a path names. -/
def placeOf (path : Path) : Place :=
  (path.splitOn slash).filter fun name => name != [] && name != [dot]

/-- The tree with a file put at a place, instead of the one that was there. -/
def FileTree.write (t : FileTree) (file : SourceFile) : FileTree :=
  { t with files := t.files.filter (·.place != file.place) ++ [file] }

/-- What remains of a place below a folder. -/
def below? (folder place : Place) : Option Place :=
  if folder.isPrefixOf place then some (place.drop folder.length) else none

/-- Whether a path ends with a slash. -/
def Path.endsWithSlash (path : Path) : Bool :=
  path.getLast? == some slash

/-- What a path leads to. A path that ends with a slash does not lead to a file. -/
def FileTree.root (t : FileTree) (path : Path) : Root :=
  let place := placeOf path
  if t.files.any (·.place == place) then
    if path.endsWithSlash then .missing else .file
  else
    let files := t.files.filterMap fun file =>
      (below? place file.place).map fun rest => { file with place := rest }
    if place.isEmpty || !files.isEmpty || t.folders.any (place.isPrefixOf ·) then .folder files
    else .missing

/-- The path of a place below a root that is given by its path. -/
def pathBelow (root : Path) (place : Place) : Path :=
  let rest := [slash].intercalate place
  if root.isEmpty || root.endsWithSlash then root ++ rest else root ++ slash :: rest

/-! ## File names -/

/-- A file name cut at its last dot: what comes before and what comes after. A name without a dot, or
with none but the one it starts with, has nothing after. -/
def cutName (name : FileName) : FileName × Option FileName :=
  let reversed := name.reverse
  let extension := reversed.takeWhile (· != dot)
  if extension.length + 1 < reversed.length then
    ((reversed.drop (extension.length + 1)).reverse, some extension.reverse)
  else (name, none)

/-- The file's own name. -/
def SourceFile.name (file : SourceFile) : FileName :=
  file.place.getLast?.getD []

/-- The file's name without its extension. -/
def SourceFile.stem (file : SourceFile) : FileName :=
  (cutName file.name).1

/-- What follows the last dot of the file's name. -/
def SourceFile.extension? (file : SourceFile) : Option FileName :=
  (cutName file.name).2

end ComponentTags.Discovery
