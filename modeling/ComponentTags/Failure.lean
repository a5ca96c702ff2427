/-!
# Failures

Resolving never fails; loading options, registering components and discovering them can. A failure is
the report that such a step hands to its caller.
-/

namespace ComponentTags

/-- A failed step: a code, a message, where it happened, and what may help. -/
structure Failure where
  code : String
  message : String
  file : String := ""
  line : UInt32 := 0
  column : UInt32 := 0
  hints : List String := []
deriving DecidableEq, Repr, Inhabited

namespace Failure

/-- The failure as one line. -/
def display (f : Failure) : String :=
  "[" ++ f.code ++ "] " ++ f.message

/-- Options that cannot be used. -/
def invalidOptions (message : String) : Failure :=
  { code := "INVALID_OPTIONS", message }

/-- An id that no template could ever reach. -/
def reservedId (id : String) : Failure where
  code := "RESERVED_COMPONENT_ID"
  message := "Do not use built-in or reserved HTML elements as component id: " ++ id
  hints := ["Rename the component, e.g. use a hyphenated id like `my-list`."]

/-- A discovery root that is a file. -/
def notADirectory (path : String) : Failure :=
  { code := "DISCOVERY_ERROR", message := "Discovery root is not a directory", file := path }

end Failure

end ComponentTags
