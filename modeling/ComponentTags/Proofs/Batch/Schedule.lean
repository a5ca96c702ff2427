import ComponentTags.Proofs.Batch.Interleaving
import ComponentTags.Proofs.Batch.Job

/-!
# Schedules

The jobs of a batch share nothing but the sink, so a schedule decides how their warnings are mixed and nothing
else. A step moves one job forward and leaves the others where they are (`Batch.step_cases`); carried along a
run, the templates that the jobs will leave stay the same (`Batch.templates_of_run`), and what was sent so far
goes on to an interleaving of all that there was to send (`Batch.interleaves_of_run`). No schedule goes on
for ever (`Batch.stepsLeft_of_run`), and where it cannot go on, each job is finished.
-/

namespace ComponentTags

section

variable (sink : Sink) (host : Host) (options : Options)

/-- The steps that the jobs of a batch have yet to take. -/
def Batch.stepsLeft (batch : Batch) : Nat :=
  (batch.jobs.map (Job.stepsLeft host options)).sum

/-- No job of the batch takes another step. -/
def Batch.Halted (batch : Batch) : Prop :=
  ∀ i, batch.step sink host options i = none

end

namespace Batch

variable {sink : Sink} {host : Host} {options : Options} {batch next last : Batch} {i : Nat}
  {schedule : List Nat}

/-! ## Steps -/

/-- A step of a batch is a step of one of its jobs; the sink receives what this job sends. -/
theorem step_cases (h : batch.step sink host options i = some next) :
    ∃ front job back following told, batch.jobs = front ++ job :: back ∧
      job.step host options = some (following, told) ∧
      next = ⟨front ++ following :: back, receiveAll sink.receive batch.record told.toList⟩ := by
  simp only [step, Option.bind_eq_bind, Option.bind_eq_some_iff, Option.some.injEq] at h
  obtain ⟨job, hjob, ⟨following, told⟩, hstep, rfl⟩ := h
  obtain ⟨hlt, rfl⟩ := List.getElem?_eq_some_iff.mp hjob
  obtain ⟨front, back, hjobs, -, hset⟩ := @List.exists_of_set _ i following _ hlt
  refine ⟨front, batch.jobs[i], back, following, told, hjobs, hstep, ?_⟩
  rw [hset]
  cases told <;> rfl

theorem halted_iff :
    batch.Halted sink host options ↔ ∀ job ∈ batch.jobs, job.step host options = none := by
  constructor
  · intro h job hjob
    obtain ⟨i, hlt, rfl⟩ := List.getElem_of_mem hjob
    cases hstep : batch.jobs[i].step host options with
    | none => rfl
    | some advanced =>
      have hnone := h i
      simp [step, hlt, hstep] at hnone
  · intro h i
    rw [Option.eq_none_iff_forall_ne_some]
    intro next hnext
    obtain ⟨front, job, back, following, told, hjobs, hstep, -⟩ := step_cases hnext
    rw [h job (hjobs ▸ List.mem_append_right front List.mem_cons_self)] at hstep
    cases hstep

theorem templates_of_step (h : batch.step sink host options i = some next) :
    next.jobs.map (Job.template host options) = batch.jobs.map (Job.template host options) := by
  obtain ⟨front, job, back, following, told, hjobs, hstep, rfl⟩ := step_cases h
  rw [hjobs, List.map_append, List.map_append, List.map_cons, List.map_cons,
    (Job.advance_of_step hstep).template_eq]

theorem stepsLeft_of_step (h : batch.step sink host options i = some next) :
    batch.stepsLeft host options = next.stepsLeft host options + 1 := by
  obtain ⟨front, job, back, following, told, hjobs, hstep, rfl⟩ := step_cases h
  have hadvance : Job.Advance host options job following told := Job.advance_of_step hstep
  have hjob : job.stepsLeft host options = following.stepsLeft host options + 1 := by
    have hmoves := hadvance.moves_eq
    rw [Job.stepsLeft, Job.stepsLeft, hadvance.pending_eq, List.length_append]
    omega
  simp only [stepsLeft, hjobs, List.map_append, List.map_cons, List.sum_append, List.sum_cons, hjob]
  omega

/-- What the jobs have yet to send after a step goes on from what the step sends. -/
theorem interleaves_of_step (h : batch.step sink host options i = some next) :
    ∃ told, next.record = receiveAll sink.receive batch.record told ∧
      ∀ rest, Interleaves (next.jobs.map (Job.pending host options)) rest →
        Interleaves (batch.jobs.map (Job.pending host options)) (told ++ rest) := by
  obtain ⟨front, job, back, following, told, hjobs, hstep, rfl⟩ := step_cases h
  refine ⟨told.toList, rfl, fun rest hrest => ?_⟩
  rw [List.map_append, List.map_cons] at hrest
  rw [hjobs, List.map_append, List.map_cons, (Job.advance_of_step hstep).pending_eq]
  -- a job that sends nothing has the same to send as before; else the head of its list is taken
  cases told with
  | none => exact hrest
  | some notice => exact .cons hrest

/-! ## Runs -/

theorem run_cons_eq_some_iff : batch.run sink host options (i :: schedule) = some last ↔
    ∃ next, batch.step sink host options i = some next ∧
      next.run sink host options schedule = some last :=
  Option.bind_eq_some_iff

theorem templates_of_run (h : batch.run sink host options schedule = some last) :
    last.jobs.map (Job.template host options) = batch.jobs.map (Job.template host options) := by
  induction schedule generalizing batch with
  | nil =>
    cases h
    rfl
  | cons i schedule ih =>
    obtain ⟨next, hstep, hrun⟩ := run_cons_eq_some_iff.mp h
    rw [ih hrun, templates_of_step hstep]

theorem stepsLeft_of_run (h : batch.run sink host options schedule = some last) :
    batch.stepsLeft host options = schedule.length + last.stepsLeft host options := by
  induction schedule generalizing batch with
  | nil =>
    cases h
    rw [List.length_nil, Nat.zero_add]
  | cons i schedule ih =>
    obtain ⟨next, hstep, hrun⟩ := run_cons_eq_some_iff.mp h
    rw [stepsLeft_of_step hstep, ih hrun, List.length_cons]
    omega

/-- What the sink receives during a run, with what the jobs have yet to send in any order after it,
interleaves what they had to send at the start. -/
theorem interleaves_of_run (h : batch.run sink host options schedule = some last) :
    ∃ told, last.record = receiveAll sink.receive batch.record told ∧
      ∀ rest, Interleaves (last.jobs.map (Job.pending host options)) rest →
        Interleaves (batch.jobs.map (Job.pending host options)) (told ++ rest) := by
  induction schedule generalizing batch with
  | nil =>
    cases h
    exact ⟨[], rfl, fun rest hrest => hrest⟩
  | cons i schedule ih =>
    obtain ⟨next, hstep, hrun⟩ := run_cons_eq_some_iff.mp h
    obtain ⟨first, hfirst, hgoes⟩ := interleaves_of_step hstep
    obtain ⟨told, htold, hrests⟩ := ih hrun
    refine ⟨first ++ told, ?_, fun rest hrest => ?_⟩
    · rw [htold, hfirst, receiveAll_append]
    · rw [List.append_assoc]
      exact hgoes _ (hrests rest hrest)

/-- Every batch can be run until no job takes another step. -/
theorem exists_run_halted (batch : Batch) : ∃ schedule last,
    batch.run sink host options schedule = some last ∧ last.Halted sink host options := by
  induction hsteps : batch.stepsLeft host options generalizing batch with
  | zero =>
    -- a step would need one that is left
    refine ⟨[], batch, rfl, fun i => ?_⟩
    rw [Option.eq_none_iff_forall_ne_some]
    intro next hnext
    rw [stepsLeft_of_step hnext] at hsteps
    cases hsteps
  | succ steps ih =>
    by_cases hhalted : batch.Halted sink host options
    · exact ⟨[], batch, rfl, hhalted⟩
    obtain ⟨i, hi⟩ := not_forall.mp hhalted
    obtain ⟨next, hnext⟩ := Option.ne_none_iff_exists'.mp hi
    obtain ⟨schedule, last, hrun, hlast⟩ := ih next (by
      rw [stepsLeft_of_step hnext] at hsteps
      exact Nat.succ.inj hsteps)
    exact ⟨i :: schedule, last, run_cons_eq_some_iff.mpr ⟨next, hnext, hrun⟩, hlast⟩

/-! ## Halted batches -/

/-- In a halted batch the jobs have become the templates that they were to leave, and nothing is left to be
sent. -/
theorem Halted.jobs_eq (h : batch.Halted sink host options) :
    batch.jobs = (batch.jobs.map (Job.template host options)).map .finished ∧
      batch.jobs.map (Job.pending host options) = batch.jobs.map fun _ => [] := by
  have hfinished : ∀ job ∈ batch.jobs, ∃ template, job = .finished template :=
    fun job hjob => Job.step_eq_none_iff.mp (halted_iff.mp h job hjob)
  constructor
  · rw [List.map_map]
    refine Eq.symm ((List.map_congr_left fun job hjob => ?_).trans (List.map_id _))
    obtain ⟨template, rfl⟩ := hfinished job hjob
    rfl
  · refine List.map_congr_left fun job hjob => ?_
    obtain ⟨template, rfl⟩ := hfinished job hjob
    rfl

/-! ## From the start -/

variable {sources : List (String × String)} {record : Record}

theorem templates_start : (start sources record).jobs.map (Job.template host options) =
    sources.map fun source => (compile host options source.2).1 := by
  simp only [start, List.map_map, Function.comp_def, Job.template]

theorem pending_start : (start sources record).jobs.map (Job.pending host options) =
    sources.map fun source => (compile host options source.2).2 := by
  simp only [start, List.map_map, Function.comp_def, Job.pending]

end Batch

/-! ## The collecting sink -/

theorem receiveAll_collect (record : Record) (notices : List Notice) :
    receiveAll Sink.collect.receive record notices =
      { record with collected := record.collected ++ notices.map (·.1) } := by
  induction notices generalizing record with
  | nil => simp [receiveAll]
  | cons notice notices ih =>
    rw [receiveAll, List.foldl_cons]
    exact (ih _).trans (by simp [Sink.receive])

/-- Templates that are compiled side by side come out as each does by itself, whatever the schedule.

No schedule is longer than the steps there are to take, and each can be continued until the batch halts. Then
the jobs are finished, one for each source and in the order of the sources, and the template of each is the
one that compiling this source alone gives. The collecting sink has received an interleaving of the lists of
warnings that compiling the sources one by one gives: each list in its own order, and together what all of
them have, as often as they have it. -/
theorem batch_schedule_independent (host : Host) (options : Options) (sources : List (String × String))
    (record : Record) {schedule : List Nat} {batch : Batch}
    (h : (Batch.start sources record).run .collect host options schedule = some batch) :
    schedule.length ≤ (Batch.start sources record).stepsLeft host options ∧
      (∃ rest last, batch.run .collect host options rest = some last ∧
        last.Halted .collect host options) ∧
      (batch.Halted .collect host options →
        batch.jobs = sources.map (fun source => .finished (compile host options source.2).1) ∧
        ∃ told, batch.record = { record with collected := record.collected ++ told } ∧
          Interleaves (sources.map fun source => (compile host options source.2).2.map (·.1)) told ∧
          (∀ source ∈ sources, ((compile host options source.2).2.map (·.1)).Sublist told) ∧
          told.Perm ((compileAll host options (sources.map (·.2))).2.map (·.1))) := by
  refine ⟨?_, batch.exists_run_halted, fun hhalted => ?_⟩
  · rw [Batch.stepsLeft_of_run h]
    exact Nat.le_add_right _ _
  obtain ⟨hjobs, hpending⟩ := hhalted.jobs_eq
  obtain ⟨notices, hrecord, hrests⟩ := Batch.interleaves_of_run h
  have hnone : Interleaves (batch.jobs.map (Job.pending host options)) [] := by
    rw [hpending]
    exact .nil fun list hlist => by
      obtain ⟨job, -, rfl⟩ := List.mem_map.mp hlist
      rfl
  have hnotices : Interleaves (sources.map fun source => (compile host options source.2).2) notices := by
    have hall := hrests [] hnone
    rwa [List.append_nil, Batch.pending_start] at hall
  have htold : Interleaves (sources.map fun source => (compile host options source.2).2.map (·.1))
      (notices.map (·.1)) := by
    have hmapped := hnotices.map (·.1)
    simp only [List.map_map, Function.comp_def] at hmapped
    exact hmapped
  refine ⟨?_, notices.map (·.1), ?_, htold, fun source hsource => ?_, ?_⟩
  · rw [hjobs, Batch.templates_of_run h, Batch.templates_start, List.map_map]
    simp only [Function.comp_def]
  · rw [hrecord, receiveAll_collect]
    rfl
  · exact htold.sublist _ (List.mem_map_of_mem hsource)
  · have hperm := htold.perm
    rw [← List.flatMap_def] at hperm
    simp only [compileAll, List.map_flatMap, List.flatMap_map]
    exact hperm

/-- Two files, and turns in which the warning of the second comes between those of the first. -/
theorem batch_of_two_files : ∃ batch,
    (Batch.start [("a.vue", "<x-a></x-a><x-b></x-b>"), ("b.vue", "<x-c></x-c>")] {}).run .collect .browser {}
        [0, 0, 0, 1, 1, 1, 1, 1, 0, 0, 0, 0, 0] = some batch ∧
      batch.record.collected = [.unknown "x-a", .unknown "x-c", .unknown "x-b"] ∧
      batch.jobs = [.finished (compile .browser {} "<x-a></x-a><x-b></x-b>").1,
        .finished (compile .browser {} "<x-c></x-c>").1] := by
  have hrun : ((Batch.start [("a.vue", "<x-a></x-a><x-b></x-b>"), ("b.vue", "<x-c></x-c>")] {}).run
      .collect .browser {} [0, 0, 0, 1, 1, 1, 1, 1, 0, 0, 0, 0, 0]).map (fun batch =>
        (batch.record.collected, batch.jobs.all fun job => (job.step .browser {}).isNone)) =
      some ([.unknown "x-a", .unknown "x-c", .unknown "x-b"], true) := by
    decide +kernel
  obtain ⟨batch, hbatch, hlast⟩ := Option.map_eq_some_iff.mp hrun
  obtain ⟨hcollected, hall⟩ := Prod.mk.inj hlast
  have hhalted : batch.Halted .collect .browser {} :=
    Batch.halted_iff.mpr fun job hjob => Option.isNone_iff_eq_none.mp (List.all_eq_true.mp hall job hjob)
  exact ⟨batch, hbatch, hcollected, ((batch_schedule_independent _ _ _ _ hbatch).2.2 hhalted).1⟩

end ComponentTags
