import SyntaxSpans.Run.Job

set_option autoImplicit false

namespace SyntaxSpans

/-- Two outcomes that differ at most in what was noted. -/
def Outcome.Same (first second : Outcome) : Prop :=
  first.result = second.result ∧ first.sink = second.sink

theorem Outcome.Same.after {first second : Outcome} (same : first.Same second)
    (events others : List Log.Event) : (first.after events).Same (second.after others) := same

theorem Outcome.Same.trans {first second third : Outcome} (left : first.Same second)
    (right : second.Same third) : first.Same third :=
  ⟨left.1.trans right.1, left.2.trans right.2⟩

namespace Job

/-- Everything about a job stays but the way of working. -/
def withParallel (job : Job) (parallel : Bool) : Job :=
  { job with options := { job.options with parallel := parallel } }

@[simp] theorem load_withParallel (job : Job) (parallel : Bool) (path : String) :
    (job.withParallel parallel).load path = job.load path := rfl

@[simp] theorem settle_withParallel (job : Job) (parallel : Bool) (failure : Failure) :
    (job.withParallel parallel).settle failure = job.settle failure := rfl

@[simp] theorem records_withParallel (job : Job) (parallel : Bool) (source : Source) :
    (job.withParallel parallel).records source = job.records source := rfl

theorem prepare_value (job : Job) (path : String) :
    (job.prepare path).value = (job.load path).value.map fun source =>
      ⟨(block source (job.records source)).flatten, (job.records source).length⟩ := by
  unfold prepare
  rw [Logged.value_andThen]
  cases (job.load path).value <;> rfl

def prepareAll (job : Job) (paths : List String) : List (String × Except Fault Prepared) :=
  paths.map fun path => (path, (job.prepare path).value)

/-- Delivering prepared blocks ends as loading and writing in turn does, from any sink and after any
files that came before. A failure met early by loading counts only when its turn comes. -/
theorem deliver_prepareAll (job : Job) (summary : Summary) (sink : Sink) (paths : List String) :
    (job.deliver summary sink (job.prepareAll paths)).Same (job.runInTurn summary sink paths) := by
  induction paths generalizing summary sink with
  | nil => exact ⟨rfl, rfl⟩
  | cons path rest ih =>
      have prepared := job.prepare_value path
      simp only [prepareAll, List.map_cons] at ih ⊢
      rw [prepared]
      cases loaded : (job.load path).value with
      | error fault =>
          simp only [Except.map, deliver, runInTurn, loaded]
          cases job.settle ⟨path, fault⟩ with
          | error last => exact ⟨rfl, rfl⟩
          | ok events => exact (ih (summary.withFailure ⟨path, fault⟩) sink).after _ _
      | ok source =>
          simp only [Except.map, deliver, runInTurn, loaded]
          rw [Sink.writeAll_eq_write]
          cases (sink.write (block source (job.records source)).flatten).2 with
          | true =>
              have onward := ih (summary.withFile (job.records source).length)
                (sink.write (block source (job.records source)).flatten).1
              exact onward.after [] _
          | false => exact ⟨rfl, rfl⟩

/-- Both ways of working come to the same, up to the flush. -/
theorem runTogether_same (job : Job) (sink : Sink) (paths : List String) :
    (job.runTogether sink paths).Same (job.runInTurn {} sink paths) := by
  have delivered := job.deliver_prepareAll {} sink paths
  unfold runTogether
  simp only [List.map_map, Function.comp_def]
  exact delivered.after _ []

theorem runInTurn_withParallel (job : Job) (parallel : Bool) (summary : Summary) (sink : Sink)
    (paths : List String) :
    (job.withParallel parallel).runInTurn summary sink paths =
      job.runInTurn summary sink paths := by
  induction paths generalizing summary sink with
  | nil => rfl
  | cons path rest ih =>
      simp only [runInTurn, load_withParallel, settle_withParallel, records_withParallel, ih]

/-- A flush that fails replaces both results; otherwise each keeps its own. -/
theorem finish_same {first second : Outcome} (same : first.Same second) :
    (finish first).Same (finish second) := by
  obtain ⟨result, sink, events⟩ := first
  obtain ⟨_, _, others⟩ := second
  obtain ⟨rfl, rfl⟩ := same
  unfold finish
  cases sink.flushFault with
  | some fault => exact ⟨rfl, rfl⟩
  | none => cases result <;> exact ⟨rfl, rfl⟩

theorem finish_of_flushed {outcome : Outcome} (flushes : outcome.sink.flushFault = none) :
    (finish outcome).Same outcome := by
  obtain ⟨result, sink, events⟩ := outcome
  unfold finish
  rw [flushes]
  cases result <;> exact ⟨rfl, rfl⟩

/-- A run over files comes to loading and writing in turn and a flush, in either way of working. -/
theorem run_same (job : Job) (sink : Sink) {paths : List String} (present : paths ≠ []) :
    (job.run sink paths).Same (finish (job.runInTurn {} sink paths)) := by
  have some : paths.isEmpty = false := by simpa using present
  unfold run
  rw [some]
  cases job.options.parallel with
  | true => exact finish_same (job.runTogether_same sink paths)
  | false => exact ⟨rfl, rfl⟩

/-- A run that loads its files together and one that takes them in turn leave the same sink behind
and return the same result: the same counts and failures in the same order, or the same fault. -/
theorem run_parallel_same (job : Job) (sink : Sink) (paths : List String) :
    ((job.withParallel true).run sink paths).result =
        ((job.withParallel false).run sink paths).result ∧
      ((job.withParallel true).run sink paths).sink =
        ((job.withParallel false).run sink paths).sink := by
  by_cases none : paths = []
  · subst none
    exact ⟨rfl, rfl⟩
  · have together := (job.withParallel true).run_same sink none
    have inTurn := (job.withParallel false).run_same sink none
    rw [runInTurn_withParallel] at together inTurn
    exact ⟨together.1.trans inTurn.1.symm, together.2.trans inTurn.2.symm⟩

end Job

end SyntaxSpans
