import ComponentTags.Compile

/-!
# Compiling templates side by side

A batch of templates is compiled by jobs that take turns in any order. Each job keeps to its own template
and goes through it as `compile` does, element by element; all that they share is the sink. Sending a
warning is a step of its own, so other jobs may send theirs after a job has found a reason to warn and
before it does.
-/

namespace ComponentTags

/-! ## Jobs -/

/-- An element that a walk is inside of, as resolving left it, with the nodes before it, nearest first, and
those after it. -/
structure Frame where
  before : List Node
  element : Element
  after : List Node
deriving Repr

/-- How far a walk over a forest has come: the nodes of a list that it has passed, nearest first, and those
still ahead, with the elements that it is inside of, innermost first. -/
structure Walk where
  before : List Node := []
  after : List Node
  outer : List Frame := []
deriving Repr

/-- How far the compilation of a template has come. -/
inductive Job where
  | waiting (source : String)
  | walking (source : String) (walk : Walk)
  /-- The walk goes on once the warning is sent. -/
  | telling (source : String) (notice : Notice) (walk : Walk)
  | finished (template : Template)
deriving Repr

/-- What the next step of a job makes of it, and the warning it sends, if any. -/
def Job.step (host : Host) (options : Options) : Job → Option (Job × Option Notice)
  | .waiting source => some (.walking source { after := (Template.parse source).nodes }, none)
  | .walking source ⟨before, .element e children :: after, outer⟩ =>
    let outcome := resolve host options e
    let left := { outcome.element with resolution := outcome.resolution }
    let inside : Walk := { after := children, outer := ⟨before, left, after⟩ :: outer }
    match outcome.warning with
    | some warning => some (.telling source (warning, e.location) inside, none)
    | none => some (.walking source inside, none)
  | .walking source ⟨before, node :: after, outer⟩ =>
    some (.walking source ⟨node :: before, after, outer⟩, none)
  | .walking source ⟨before, [], frame :: outer⟩ =>
    let node := Node.element frame.element before.reverse
    some (.walking source ⟨node :: frame.before, frame.after, outer⟩, none)
  | .walking source ⟨before, [], []⟩ => some (.finished ⟨source, before.reverse⟩, none)
  | .telling source notice walk => some (.walking source walk, some notice)
  | .finished _ => none

/-! ## Batches -/

/-- Some jobs, and what the sink that they share was sent. -/
structure Batch where
  jobs : List Job
  record : Record
deriving Repr

namespace Batch

/-- The batch that compiles some files, given by name and text. -/
def start (sources : List (String × String)) (record : Record) : Batch :=
  ⟨sources.map fun source => .waiting source.2, record⟩

/-- The batch after the next step of one of its jobs. -/
def step (sink : Sink) (host : Host) (options : Options) (i : Nat) (batch : Batch) : Option Batch := do
  let job ← batch.jobs[i]?
  let (next, told) ← job.step host options
  let record :=
    match told with
    | some (warning, location) => sink.receive batch.record warning location
    | none => batch.record
  some ⟨batch.jobs.set i next, record⟩

/-- The batch after some steps: the schedule says whose turn it is. -/
def run (sink : Sink) (host : Host) (options : Options) : List Nat → Batch → Option Batch
  | [], batch => some batch
  | i :: schedule, batch => (batch.step sink host options i).bind (run sink host options schedule)

end Batch

end ComponentTags
