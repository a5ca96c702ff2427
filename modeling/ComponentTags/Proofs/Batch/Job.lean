import ComponentTags.Batch
import ComponentTags.Proofs.Forest.Diagnostics
import Mathlib.Algebra.GroupWithZero.Nat

/-!
# What a job comes to

The template that a job will leave and the warnings it has yet to send can be told from how far it has
come. A step changes nothing about the former and takes what it sends from the front of the latter
(`advance_of_step`); a job that is waiting has all of `compile` before it. Each step also brings the job
nearer to its end, so it gets there.
-/

namespace ComponentTags

section

variable (host : Host) (options : Options)

/-! ## Walks -/

/-- The list that the element of a frame is in, once its children and what comes after it are settled. -/
def Frame.close (children : List Node) (frame : Frame) : List Node :=
  frame.before.reverse ++
    .element frame.element children :: mapAll (Element.settle host options) frame.after

/-- The forest that a walk will leave. -/
def Walk.forest (walk : Walk) : List Node :=
  walk.outer.foldl (Frame.close host options)
    (walk.before.reverse ++ mapAll (Element.settle host options) walk.after)

/-- The elements that a walk has not come to, in document order. -/
def Walk.ahead (walk : Walk) : List Element :=
  elementsOf walk.after ++ walk.outer.flatMap fun frame => elementsOf frame.after

/-- The warnings that a walk has yet to send. -/
def Walk.pending (walk : Walk) : List Notice :=
  walk.ahead.filterMap (Element.notice? host options)

mutual

/-- The moves of a walk over a node: into an element and out of it, past anything else. -/
def Node.moves : Node → Nat
  | .element _ children => movesAll children + 2
  | .text _ _ | .comment _ _ => 1

/-- The moves of a walk over some nodes. -/
def movesAll : List Node → Nat
  | [] => 0
  | node :: rest => node.moves + movesAll rest

end

/-- The moves that a walk has yet to make. -/
def Walk.moves (walk : Walk) : Nat :=
  movesAll walk.after + (walk.outer.map fun frame => movesAll frame.after + 1).sum

/-! ## Jobs -/

/-- The template that a job will leave. -/
def Job.template : Job → Template
  | .waiting source => (compile host options source).1
  | .walking source walk | .telling source _ walk => ⟨source, walk.forest host options⟩
  | .finished template => template

/-- The warnings that a job has yet to send. -/
def Job.pending : Job → List Notice
  | .waiting source => (compile host options source).2
  | .walking _ walk => walk.pending host options
  | .telling _ notice walk => notice :: walk.pending host options
  | .finished _ => []

/-- The steps that a job has yet to take besides those that send a warning. -/
def Job.moves : Job → Nat
  | .waiting source => movesAll (Template.parse source).nodes + 2
  | .walking _ walk | .telling _ _ walk => walk.moves + 1
  | .finished _ => 0

/-- The steps that a job has yet to take. -/
def Job.stepsLeft (job : Job) : Nat :=
  job.moves + (job.pending host options).length

/-! ## Steps -/

/-- What a step keeps that leads from one state of a job to another and sends a warning, or none. -/
structure Job.Advance (job next : Job) (told : Option Notice) : Prop where
  template_eq : next.template host options = job.template host options
  /-- What is sent is the first of what there is to send. -/
  pending_eq : job.pending host options = told.toList ++ next.pending host options
  /-- A step that sends a warning is not counted as a move. -/
  moves_eq : job.moves + told.toList.length = next.moves + 1

end

section

variable {host : Host} {options : Options} {source : String} {e : Element} {node : Node}
  {children before after : List Node} {frame : Frame} {outer : List Frame}

/-! ### Into a template -/

/-- The walk starts on the nodes of the template. -/
theorem Job.advance_start : Advance host options (waiting source)
    (walking source { after := (Template.parse source).nodes }) none where
  template_eq := by
    have hsource : (Template.parse source).source = source := by
      rw [Template.parse]
    simp only [template, compile_eq, hsource, resolveAll_fst, Walk.forest, List.foldl_nil,
      List.reverse_nil, List.nil_append]
  pending_eq := by
    simp only [pending, compile_eq, resolveAll_snd, Walk.pending, Walk.ahead, List.flatMap_nil,
      List.append_nil, Option.toList_none, List.nil_append]
  moves_eq := by
    simp only [moves, Walk.moves, List.map_nil, List.sum_nil, Option.toList_none, List.length_nil,
      Nat.add_zero]

/-! ### Into an element -/

theorem Walk.forest_enter :
    (Walk.mk [] children (⟨before, e.settle host options, after⟩ :: outer)).forest host options =
      (Walk.mk before (.element e children :: after) outer).forest host options := by
  simp only [forest, List.foldl_cons, Frame.close, List.reverse_nil, List.nil_append, mapAll, Node.map]

theorem Walk.pending_enter (left : Element) :
    (Walk.mk before (.element e children :: after) outer).pending host options =
      (e.notice? host options).toList ++
        (Walk.mk [] children (⟨before, left, after⟩ :: outer)).pending host options := by
  simp only [pending, ahead, elementsOf, Node.elements, List.flatMap_cons, List.cons_append,
    List.append_assoc, List.filterMap_cons]
  cases e.notice? host options <;> rfl

theorem Walk.moves_enter (left : Element) :
    (Walk.mk before (.element e children :: after) outer).moves =
      (Walk.mk [] children (⟨before, left, after⟩ :: outer)).moves + 1 := by
  simp only [moves, movesAll, Node.moves, List.map_cons, List.sum_cons]
  omega

/-- The walk goes into an element. If there is something to warn of, it goes on when that is sent. -/
theorem Job.advance_enter {next : Job} {told : Option Notice}
    (h : (walking source ⟨before, .element e children :: after, outer⟩).step host options =
      some (next, told)) :
    Advance host options (walking source ⟨before, .element e children :: after, outer⟩) next told := by
  let inside : Walk := ⟨[], children, ⟨before, e.settle host options, after⟩ :: outer⟩
  have hforest : inside.forest host options =
      (Walk.mk before (.element e children :: after) outer).forest host options := Walk.forest_enter
  have hpending : (Walk.mk before (.element e children :: after) outer).pending host options =
      (e.notice? host options).toList ++ inside.pending host options := Walk.pending_enter _
  have hmoves : (Walk.mk before (.element e children :: after) outer).moves = inside.moves + 1 :=
    Walk.moves_enter _
  rw [step] at h
  dsimp only at h
  -- the element warns or it does not; the walk that is left is the same
  split at h
  · next warning hwarning =>
    rw [Element.notice?, hwarning] at hpending
    cases h
    exact ⟨congrArg (Template.mk source) hforest, hpending, congrArg (· + 1) hmoves⟩
  · next hwarning =>
    rw [Element.notice?, hwarning] at hpending
    cases h
    exact ⟨congrArg (Template.mk source) hforest, hpending, congrArg (· + 1) hmoves⟩

/-! ### Past a node and out of an element -/

/-- The walk goes past a node without elements. -/
theorem Job.advance_pass (hmap : node.map (Element.settle host options) = node)
    (helements : node.elements = []) (hmoves : node.moves = 1) :
    Advance host options (walking source ⟨before, node :: after, outer⟩)
      (walking source ⟨node :: before, after, outer⟩) none where
  template_eq := by
    simp only [template, Walk.forest, mapAll, hmap, List.reverse_cons, List.append_assoc,
      List.singleton_append]
  pending_eq := by
    simp only [pending, Walk.pending, Walk.ahead, elementsOf, helements, Option.toList_none,
      List.nil_append]
  moves_eq := by
    simp only [moves, Walk.moves, movesAll, hmoves, Option.toList_none, List.length_nil]
    omega

/-- The walk comes out of an element when all of its children are behind. -/
theorem Job.advance_leave :
    Advance host options (walking source ⟨before, [], frame :: outer⟩)
      (walking source ⟨.element frame.element before.reverse :: frame.before, frame.after, outer⟩)
      none where
  template_eq := by
    simp only [template, Walk.forest, List.foldl_cons, Frame.close, mapAll, List.append_nil,
      List.reverse_cons, List.append_assoc, List.singleton_append]
  pending_eq := by
    simp only [pending, Walk.pending, Walk.ahead, elementsOf, List.flatMap_cons, Option.toList_none,
      List.nil_append]
  moves_eq := by
    simp only [moves, Walk.moves, movesAll, List.map_cons, List.sum_cons, Option.toList_none,
      List.length_nil]
    omega

/-! ### Any step -/

/-- Whatever step a job takes, it leaves the same template in the end, and sends the warnings that it had
to send, in the same order. -/
theorem Job.advance_of_step {job next : Job} {told : Option Notice}
    (h : job.step host options = some (next, told)) : Advance host options job next told := by
  cases job with
  | waiting source =>
    cases h
    exact advance_start
  | walking source walk =>
    obtain ⟨before, after, outer⟩ := walk
    cases after with
    | cons node after =>
      cases node with
      | element e children => exact advance_enter h
      | text value location =>
        cases h
        exact advance_pass rfl rfl rfl
      | comment value location =>
        cases h
        exact advance_pass rfl rfl rfl
    | nil =>
      cases outer with
      | cons frame outer =>
        cases h
        exact advance_leave
      | nil =>
        cases h
        refine ⟨?_, rfl, rfl⟩
        rw [template, template, Walk.forest, List.foldl_nil, mapAll, List.append_nil]
  | telling source notice walk =>
    cases h
    exact ⟨rfl, rfl, rfl⟩
  | finished template => cases h

/-- A job goes on until it is finished. -/
theorem Job.step_eq_none_iff {job : Job} :
    job.step host options = none ↔ ∃ template, job = .finished template := by
  fun_cases Job.step host options job <;> simp

end

end ComponentTags
