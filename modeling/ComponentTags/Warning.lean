import ComponentTags.Element

/-!
# Warnings and where they go

What a developer should know about a tag that did not resolve, and the sinks that warnings are sent
to. A sink turns a warning into a record; what a program does with its records is not decided here.
-/

namespace ComponentTags

/-- Something odd about a tag. -/
inductive Warning where
  /-- A component is registered under this name in another spelling. -/
  | misCased (tag expected : String)
  /-- Neither a component nor an element that the host knows. -/
  | unknown (tag : String)
deriving DecidableEq, Repr

namespace Warning

/-- The tag the warning is about. -/
def tag : Warning → String
  | misCased tag _ | unknown tag => tag

/-- The spelling to use instead, if there is one. -/
def expected? : Warning → Option String
  | misCased _ expected => some expected
  | unknown _ => none

/-- The warning in words. -/
def message : Warning → String
  | misCased tag expected =>
    "Unknown custom element: <" ++ tag ++ "> - did you mean <" ++ expected ++ ">? " ++
      "HTML is case-insensitive, remember to use kebab-case in templates."
  | unknown tag =>
    "Unknown custom element: <" ++ tag ++ "> - did you register the component correctly? " ++
      "For recursive components, make sure to provide the \"name\" option."

end Warning

/-- Something written to the log. -/
inductive Event where
  /-- A warning about a tag, with its place. -/
  | tag (tag message : String) (location : Location)
  /-- An id that was refused while a map of components was loaded. -/
  | refusedId (id message : String)
  /-- A file that did not give a component. -/
  | file (path message : String)
deriving DecidableEq, Repr

/-- What becomes of a warning. -/
inductive Sink where
  /-- It is written to the log. -/
  | log
  /-- It is dropped. -/
  | discard
  /-- It is kept for later. -/
  | collect
deriving DecidableEq, Repr

/-- What the sinks were sent so far. -/
structure Record where
  collected : List Warning := []
  log : List Event := []
deriving DecidableEq, Repr

/-- The record after a sink received a warning about an element at a place. -/
def Sink.receive (sink : Sink) (record : Record) (warning : Warning) (location : Location) : Record :=
  match sink with
  | .log => { record with log := record.log ++ [.tag warning.tag warning.message location] }
  | .discard => record
  | .collect => { record with collected := record.collected ++ [warning] }

end ComponentTags
