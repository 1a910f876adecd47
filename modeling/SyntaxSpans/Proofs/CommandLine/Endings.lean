import SyntaxSpans.Proofs.CommandLine.Positionals
import SyntaxSpans.Proofs.Run.Reach

set_option autoImplicit false

namespace SyntaxSpans.CommandLine

def Arguments.job (world : World) (arguments : Arguments) (selection : Selection) : Job :=
  ⟨world, arguments.options, selection⟩

/-- What makes the program succeed. -/
inductive Request.Succeeds (world : World) : Request → Prop
  | help : Succeeds world .help
  | version : Succeeds world .version
  | complete {arguments : Arguments} {selection : Selection} {summary : Summary}
      (present : arguments.files ≠ [])
      (selected : arguments.selection world.files = .ok selection)
      (finished : ((arguments.job world selection).run {} arguments.files).result = .ok summary)
      (whole : summary.failures = []) :
      Succeeds world (.accepted arguments)

/-- What an ending has to say of a run over files. Its output is what the run writes, up to a
failure that ends the run; failures that do not are counted and listed in input order. -/
structure Ending.Follows (ending : Ending) (job : Job) (paths : List String) : Prop where
  output : ending.output = (job.run {} paths).sink.taken
  blocks : ending.output = job.outputOf (job.reached paths)
  exitCode : ending.exitCode = 0 ↔ ∀ path ∈ paths, job.failureOf? path = none
  aborted : ∀ fault, (job.run {} paths).result = .error fault →
    ending.complaints = [s!"error: {fault.detailed}"]
  incomplete : ∀ summary, (job.run {} paths).result = .ok summary → summary.failures ≠ [] →
    summary.failures = job.failuresOf paths ∧
    ending.complaints = s!"{summary.failures.length} file(s) could not be processed:" ::
      summary.failures.map fun failure => s!"  {failure.fault.message}"

section Conclude

variable (events : List Log.Event) {outcome : Outcome}

theorem output_conclude (outcome : Outcome) :
    (conclude events outcome).output = outcome.sink.taken := by
  unfold conclude
  dsimp only
  split
  · rfl
  · split <;> rfl

theorem conclude_of_error {fault : Fault} (failed : outcome.result = .error fault) :
    conclude events outcome = abort outcome.sink.taken fault (events ++ outcome.events) := by
  simp only [conclude, failed]

theorem conclude_of_whole {summary : Summary} (finished : outcome.result = .ok summary)
    (whole : summary.failures = []) :
    conclude events outcome = ⟨0, outcome.sink.taken, [], events ++ outcome.events⟩ := by
  simp only [conclude, finished, Summary.isSuccess, whole, List.isEmpty_nil, ↓reduceIte]

theorem conclude_of_failures {summary : Summary} (finished : outcome.result = .ok summary)
    (left : summary.failures ≠ []) :
    conclude events outcome =
      ⟨1, outcome.sink.taken, complaints summary.failures, events ++ outcome.events⟩ := by
  have unsuccessful : summary.failures.isEmpty = false := List.isEmpty_eq_false_iff.mpr left
  simp only [conclude, finished, Summary.isSuccess, unsuccessful, Bool.false_eq_true, ↓reduceIte]

theorem exitCode_conclude (outcome : Outcome) :
    (conclude events outcome).exitCode ≤ 1 ∧
      ((conclude events outcome).exitCode = 0 ↔
        ∃ summary, outcome.result = .ok summary ∧ summary.failures = []) := by
  cases result : outcome.result with
  | error fault =>
      rw [conclude_of_error events result]
      simp [abort]
  | ok summary =>
      by_cases whole : summary.failures = []
      · rw [conclude_of_whole events result whole]
        simp [whole]
      · rw [conclude_of_failures events result whole]
        simp [whole]

end Conclude

/-- The end of a run over files follows it. -/
theorem follows_conclude (events : List Log.Event) (job : Job) {paths : List String}
    (present : paths ≠ []) : (conclude events (job.run {} paths)).Follows job paths := by
  obtain ⟨returned, filled⟩ := @Job.run_reaches job {} paths present rfl rfl
  constructor
  case output => exact output_conclude events _
  case blocks =>
    rw [output_conclude, filled]
    exact List.nil_append _
  case exitCode => rw [(exitCode_conclude events _).2, returned, job.resultOf_whole_iff paths]
  case aborted =>
    intro fault failed
    rw [conclude_of_error events failed]
    rfl
  case incomplete =>
    intro summary finished left
    refine ⟨?_, ?_⟩
    · obtain ⟨-, rfl⟩ := (job.resultOf_eq_ok_iff paths summary).mp (returned.symm.trans finished)
      exact List.nil_append _
    · rw [conclude_of_failures events finished left]
      rfl

section Execute

variable {world : World} {arguments : Arguments}

/-- Without input files nothing else is looked at. -/
theorem execute_of_empty (world : World) (empty : arguments.files = []) :
    ∃ events, execute world arguments = abort [] (.usage "no input files given") events := by
  simp only [execute, empty, List.isEmpty_nil, ↓reduceIte]
  exact ⟨_, rfl⟩

theorem execute_of_unselected {fault : Fault} (present : arguments.files ≠ [])
    (failed : arguments.selection world.files = .error fault) :
    execute world arguments = abort [] fault [] := by
  have given : arguments.files.isEmpty = false := List.isEmpty_eq_false_iff.mpr present
  simp only [execute, given, failed, Bool.false_eq_true, ↓reduceIte]

theorem execute_of_selected {selection : Selection} (present : arguments.files ≠ [])
    (selected : arguments.selection world.files = .ok selection) :
    execute world arguments =
      conclude selection.events ((arguments.job world selection).run {} arguments.files) := by
  have given : arguments.files.isEmpty = false := List.isEmpty_eq_false_iff.mpr present
  simp only [execute, given, selected, Arguments.job, Bool.false_eq_true, ↓reduceIte]

/-- Accepted arguments make the program succeed if they lead to a run that leaves nothing out, and
fail otherwise. -/
theorem exitCode_execute (world : World) (arguments : Arguments) :
    (execute world arguments).exitCode ≤ 1 ∧
      ((execute world arguments).exitCode = 0 ↔
        (Request.accepted arguments).Succeeds world) := by
  by_cases present : arguments.files = []
  · obtain ⟨events, ended⟩ := execute_of_empty world present
    rw [ended]
    refine ⟨Nat.le_refl 1, fun zero => absurd zero Nat.one_ne_zero, fun succeeds => ?_⟩
    cases succeeds with
    | complete filled selected finished whole => exact absurd present filled
  · cases selected : arguments.selection world.files with
    | error fault =>
        rw [execute_of_unselected present selected]
        refine ⟨Nat.le_refl 1, fun zero => absurd zero Nat.one_ne_zero, fun succeeds => ?_⟩
        cases succeeds with
        | complete filled found finished whole => cases selected.symm.trans found
    | ok selection =>
        rw [execute_of_selected present selected]
        refine ⟨(exitCode_conclude _ _).1, (exitCode_conclude _ _).2.trans ⟨?_, ?_⟩⟩
        · rintro ⟨summary, finished, whole⟩
          exact .complete present selected finished whole
        · intro succeeds
          cases succeeds with
          | complete filled found finished whole =>
              cases selected.symm.trans found
              exact ⟨_, finished, whole⟩

end Execute

theorem exitCode_run (world : World) (given : List String) :
    (run world given).exitCode ≤ 1 ∧
      ((run world given).exitCode = 0 ↔ (Request.ofArguments given).Succeeds world) := by
  unfold run
  cases Request.ofArguments given with
  | help => exact ⟨Nat.zero_le 1, iff_of_true rfl .help⟩
  | version => exact ⟨Nat.zero_le 1, iff_of_true rfl .version⟩
  | refused refusal =>
      refine ⟨Nat.le_refl 1, iff_of_false Nat.one_ne_zero fun succeeds => ?_⟩
      cases succeeds
  | accepted arguments => exact exitCode_execute world arguments

/-- The program from its arguments to its end. The exit code tells whether it succeeded. Refused
arguments, missing input files and a selection that cannot be had leave the output empty, and input
files are missed before the selection is looked for. Otherwise the program ends as its run over the
input files does: these are all paths among the arguments where names are given by option, and all
but the first where that is the file of the selection. -/
theorem run_ends (world : World) (given : List String) :
    ((run world given).exitCode = 0 ↔ (Request.ofArguments given).Succeeds world) ∧
    (¬(Request.ofArguments given).Succeeds world → (run world given).exitCode = 1) ∧
    (∀ refusal, Request.ofArguments given = .refused refusal → (run world given).output = []) ∧
    ∀ arguments, Request.ofArguments given = .accepted arguments →
      (∀ names, arguments.select = some names →
        arguments.files = Arguments.pathsAmong false given ∧
        arguments.selection world.files = .ok (.ofNames names)) ∧
      (arguments.select = none → ∃ declarations,
        Arguments.pathsAmong false given = declarations :: arguments.files ∧
        arguments.selection world.files = Selection.load world.files declarations) ∧
      (arguments.files = [] →
        (run world given).output = [] ∧
        (run world given).complaints = ["error: usage: no input files given"]) ∧
      (arguments.files ≠ [] →
        (∀ fault, arguments.selection world.files = .error fault →
          (run world given).output = [] ∧
          (run world given).complaints = [s!"error: {fault.detailed}"]) ∧
        ∀ selection, arguments.selection world.files = .ok selection →
          (run world given).Follows (arguments.job world selection) arguments.files) := by
  obtain ⟨atMost, zero⟩ := exitCode_run world given
  refine ⟨zero, fun fails => ?_, fun refusal refused => ?_, fun arguments accepted => ?_⟩
  · have nonzero := mt zero.mp fails
    omega
  · simp only [run, refused]
  · have executed : run world given = execute world arguments := by simp only [run, accepted]
    rw [executed]
    refine ⟨fun names named => ⟨files_of_names accepted named, ?_⟩, fun unnamed => ?_,
      fun empty => ?_, fun present => ⟨fun fault failed => ?_, fun selection selected => ?_⟩⟩
    · simp only [Arguments.selection, named]
    · obtain ⟨declarations, split, selects⟩ := files_of_declarations accepted unnamed
      exact ⟨declarations, split, selects world.files⟩
    · obtain ⟨events, ended⟩ := execute_of_empty world empty
      rw [ended]
      exact ⟨rfl, rfl⟩
    · rw [execute_of_unselected present failed]
      exact ⟨rfl, rfl⟩
    · rw [execute_of_selected present selected]
      exact follows_conclude selection.events _ present

-- Whether there is a file of that name makes no difference.
example (world : World) : (run world ["names.json", "--keep-going"]).complaints =
    ["error: usage: no input files given"] := rfl

end SyntaxSpans.CommandLine
