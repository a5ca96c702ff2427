import ComponentTags.Failure
import ComponentTags.Json.Reader

/-!
# Failures as JSON

A failure is written with all of its fields, and all of them are required when one is read.
-/

namespace ComponentTags

open Json

/-- A failure as JSON. -/
def Failure.toJson (f : Failure) : Value :=
  .object [
    ("code", .string f.code), ("message", .string f.message), ("file", .string f.file),
    ("line", .natural f.line.toNat), ("column", .natural f.column.toNat),
    ("hints", .strings f.hints)]

/-- A failure of which some is read. -/
structure FailureDraft where
  code : Option String := none
  message : Option String := none
  file : Option String := none
  line : Option UInt32 := none
  column : Option UInt32 := none
  hints : Option (List String) := none

/-- Reads a failure. -/
def Failure.read : Scan Failure :=
  Source.record {
    name := "CompilerError"
    fields := [
      .of "code" FailureDraft.code (fun d code => { d with code }) Source.string,
      .of "message" FailureDraft.message (fun d message => { d with message }) Source.string,
      .of "file" FailureDraft.file (fun d file => { d with file }) Source.string,
      .of "line" FailureDraft.line (fun d line => { d with line }) Source.word32,
      .of "column" FailureDraft.column (fun d column => { d with column }) Source.word32,
      .of "hints" FailureDraft.hints (fun d hints => { d with hints })
        (Source.list Source.string)]
    blank := {}
    finish := fun missing d => do
      let code ← require missing 0 "code" d.code
      let message ← require missing 1 "message" d.message
      let file ← require missing 2 "file" d.file
      let line ← require missing 3 "line" d.line
      let column ← require missing 4 "column" d.column
      let hints ← require missing 5 "hints" d.hints
      return { code, message, file, line, column, hints } }

end ComponentTags
