import Mathlib.Data.List.TakeWhile
import SyntaxSpans.Proofs.Run.Blocks

set_option autoImplicit false

namespace SyntaxSpans.Job

/-- The paths that a run gets past. -/
def reached (job : Job) (paths : List String) : List String :=
  match job.options.onError with
  | .skip => paths
  | .abort => paths.takeWhile fun path => (job.failureOf? path).isNone

def stoppedBy? (job : Job) (paths : List String) : Option Failure :=
  match job.options.onError with
  | .skip => none
  | .abort => (job.failuresOf paths).head?

/-- What a run over files returns. -/
def resultOf (job : Job) (paths : List String) : Except Fault Summary :=
  match job.stoppedBy? paths with
  | some failure => .error failure.fault
  | none => .ok (job.tally {} (job.reached paths))

theorem reached_sublist (job : Job) (paths : List String) : (job.reached paths).Sublist paths := by
  unfold reached
  split
  · exact List.Sublist.refl _
  · exact List.takeWhile_sublist _

theorem reached_of_passes {job : Job} {paths : List String}
    (passes : job.options.onError = .skip ∨ ∀ path ∈ paths, job.failureOf? path = none) :
    job.reached paths = paths ∧ job.stoppedBy? paths = none := by
  unfold reached stoppedBy?
  rcases passes with skips | loads
  · rw [skips]
    exact ⟨rfl, rfl⟩
  · cases job.options.onError with
    | skip => exact ⟨rfl, rfl⟩
    | abort =>
        refine ⟨List.takeWhile_eq_self_iff.mpr fun path member => ?_, ?_⟩
        · rw [loads path member, Option.isNone_none]
        · rw [failuresOf_of_loads loads, List.head?_nil]

/-- A run that is aborted gets past the paths before its first failure. -/
theorem reached_of_aborts {job : Job} {before : List String} {path : String} {failure : Failure}
    (after : List String) (aborts : job.options.onError = .abort)
    (loads : ∀ earlier ∈ before, job.failureOf? earlier = none)
    (failed : job.failureOf? path = some failure) :
    job.reached (before ++ path :: after) = before ∧
      job.stoppedBy? (before ++ path :: after) = some failure := by
  unfold reached stoppedBy?
  rw [aborts]
  constructor
  · rw [List.takeWhile_append_of_pos, List.takeWhile_cons_of_neg, List.append_nil]
    · rw [failed]
      exact Bool.false_ne_true
    · intro earlier member
      rw [loads earlier member, Option.isNone_none]
  · simp only [failuresOf, List.filterMap_append, List.filterMap_cons, failed]
    rw [List.filterMap_eq_nil_iff.mpr loads, List.nil_append, List.head?_cons]

theorem loads_or_splits (job : Job) (paths : List String) :
    (∀ path ∈ paths, job.failureOf? path = none) ∨
      ∃ before path after failure, paths = before ++ path :: after ∧
        (∀ earlier ∈ before, job.failureOf? earlier = none) ∧
        job.failureOf? path = some failure := by
  induction paths with
  | nil => exact .inl (List.forall_mem_nil _)
  | cons path rest ih =>
      cases first : job.failureOf? path with
      | some failure => exact .inr ⟨[], path, rest, failure, rfl, List.forall_mem_nil _, first⟩
      | none =>
          rcases ih with loads | ⟨before, later, after, failure, rfl, loads, failed⟩
          · exact .inl (List.forall_mem_cons.mpr ⟨first, loads⟩)
          · exact .inr ⟨path :: before, later, after, failure, rfl,
              List.forall_mem_cons.mpr ⟨first, loads⟩, failed⟩

theorem failureOf?_eq_some {job : Job} {path : String} {failure : Failure}
    (failed : job.failureOf? path = some failure) :
    (job.load path).value = .error failure.fault ∧ failure.path = path := by
  unfold failureOf? at failed
  split at failed
  · rename_i fault found
    cases failed
    exact ⟨found, rfl⟩
  · cases failed

/-- Either a run comes to the end or it is aborted at some path. -/
theorem passes_or_aborts (job : Job) (paths : List String) :
    (job.options.onError = .skip ∨ ∀ path ∈ paths, job.failureOf? path = none) ∨
      job.options.onError = .abort ∧
      ∃ before path after failure, paths = before ++ path :: after ∧
        (∀ earlier ∈ before, job.failureOf? earlier = none) ∧
        job.failureOf? path = some failure := by
  cases policy : job.options.onError with
  | skip => exact .inl (.inl rfl)
  | abort =>
      rcases job.loads_or_splits paths with loads | splits
      · exact .inl (.inr loads)
      · exact .inr ⟨rfl, splits⟩

/-- A run returns a summary exactly if it comes to the end, and then a summary of all paths. -/
theorem resultOf_eq_ok_iff (job : Job) (paths : List String) (summary : Summary) :
    job.resultOf paths = .ok summary ↔
      (job.options.onError = .skip ∨ ∀ path ∈ paths, job.failureOf? path = none) ∧
        summary = job.tally {} paths := by
  constructor
  · intro finished
    rcases job.passes_or_aborts paths with passes | ⟨aborts, before, path, after, failure, rfl,
      loads, failed⟩
    · obtain ⟨all, unstopped⟩ := reached_of_passes passes
      simp only [resultOf, unstopped, all] at finished
      cases finished
      exact ⟨passes, rfl⟩
    · obtain ⟨-, stopped⟩ := reached_of_aborts after aborts loads failed
      simp only [resultOf, stopped] at finished
      cases finished
  · rintro ⟨passes, rfl⟩
    obtain ⟨all, unstopped⟩ := reached_of_passes passes
    simp only [resultOf, unstopped, all]

/-- A run leaves no file out exactly if all of them can be loaded. -/
theorem resultOf_whole_iff (job : Job) (paths : List String) :
    (∃ summary, job.resultOf paths = .ok summary ∧ summary.failures = []) ↔
      ∀ path ∈ paths, job.failureOf? path = none := by
  constructor
  · rintro ⟨summary, finished, whole⟩
    obtain ⟨-, rfl⟩ := (job.resultOf_eq_ok_iff paths summary).mp finished
    exact List.filterMap_eq_nil_iff.mp whole
  · intro loads
    exact ⟨_, (job.resultOf_eq_ok_iff paths _).mpr ⟨.inr loads, rfl⟩, failuresOf_of_loads loads⟩

/-- A run over files leaves the blocks of the paths that it gets past in a sink that takes
everything. -/
theorem run_reaches (job : Job) {sink : Sink} {paths : List String} (present : paths ≠ [])
    (unlimited : sink.room = none) (flushes : sink.flushFault = none) :
    (job.run sink paths).Same
      ⟨job.resultOf paths, job.filled sink (job.reached paths), []⟩ := by
  rcases job.passes_or_aborts paths with passes | ⟨aborts, before, path, after, failure, rfl,
    loads, failed⟩
  · obtain ⟨all, unstopped⟩ := reached_of_passes passes
    simp only [resultOf, unstopped, all]
    exact run_through present unlimited flushes passes
  · obtain ⟨upTo, stopped⟩ := reached_of_aborts after aborts loads failed
    simp only [resultOf, stopped, upTo]
    exact run_aborted after unlimited flushes aborts loads (failureOf?_eq_some failed).1

end SyntaxSpans.Job
