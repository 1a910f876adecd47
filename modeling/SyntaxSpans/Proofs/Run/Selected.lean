import Mathlib.Data.List.Basic
import SyntaxSpans.Proofs.Report.Selected
import SyntaxSpans.Proofs.Run.Reach

set_option autoImplicit false

namespace SyntaxSpans.Job

/-- The same job with these names selected. -/
def selecting (job : Job) (names : List String) : Job :=
  { job with selection := .ofNames names }

def selectingAll (job : Job) : Job := { job with selection := .every }

/-- The files of some paths that have a block, each with its records. -/
def blocksOf (job : Job) (paths : List String) : List (String × List Record) :=
  paths.filterMap fun path =>
    match job.extract path with
    | .error _ => none
    | .ok records => some (path, records)

/-- The text of such blocks: a path on a line of its own, and each record on one. -/
def written (blocks : List (String × List Record)) : Bytes :=
  (blocks.flatMap fun entry => line entry.1 :: entry.2.map fun record => line record.line).flatten

def recordsIn (blocks : List (String × List Record)) : Nat := (blocks.flatMap (·.2)).length

/-- Blocks without the records of other names. -/
def narrowed (names : List String) (blocks : List (String × List Record)) :
    List (String × List Record) :=
  blocks.map fun entry => (entry.1, entry.2.filter (Record.isAmong names))

section Blocks

variable {job : Job} {path : String}

theorem blocksOf_cons_of_failed {fault : Fault} (rest : List String)
    (failed : job.extract path = .error fault) :
    job.blocksOf (path :: rest) = job.blocksOf rest := by
  rw [blocksOf, List.filterMap_cons, failed]
  rfl

theorem blocksOf_cons_of_found {records : List Record} (rest : List String)
    (found : job.extract path = .ok records) :
    job.blocksOf (path :: rest) = (path, records) :: job.blocksOf rest := by
  rw [blocksOf, List.filterMap_cons, found]
  rfl

theorem extract_of_mem_blocksOf {paths : List String} {entry : String × List Record}
    (member : entry ∈ job.blocksOf paths) : job.extract entry.1 = .ok entry.2 := by
  obtain ⟨path, -, found⟩ := List.mem_filterMap.mp member
  split at found
  · cases found
  · rename_i records extracted
    cases found
    exact extracted

theorem blocksOf_sublist (job : Job) (paths : List String) :
    ((job.blocksOf paths).map (·.1)).Sublist paths := by
  induction paths with
  | nil => exact List.Sublist.refl _
  | cons path rest ih =>
      cases found : job.extract path with
      | error fault =>
          rw [blocksOf_cons_of_failed rest found]
          exact ih.cons path
      | ok records =>
          rw [blocksOf_cons_of_found rest found]
          exact ih.cons_cons path

theorem outputOf_eq_written (job : Job) (paths : List String) :
    job.outputOf paths = written (job.blocksOf paths) := by
  unfold outputOf written
  congr 1
  induction paths with
  | nil => rfl
  | cons path rest ih =>
      rw [List.flatMap_cons, ih, blockOf]
      cases found : job.extract path with
      | error fault => rw [blocksOf_cons_of_failed rest found]; rfl
      | ok records => rw [blocksOf_cons_of_found rest found]; rfl

theorem length_recordLinesOf (job : Job) (paths : List String) :
    (job.recordLinesOf paths).length = recordsIn (job.blocksOf paths) := by
  unfold recordLinesOf recordsIn
  induction paths with
  | nil => rfl
  | cons path rest ih =>
      rw [List.flatMap_cons, List.length_append, ih, blockOf]
      cases found : job.extract path with
      | error fault =>
          rw [blocksOf_cons_of_failed rest found]
          exact Nat.zero_add _
      | ok records =>
          rw [blocksOf_cons_of_found rest found, List.flatMap_cons, List.length_append,
            List.tail_cons, List.length_map]

end Blocks

section Selecting

variable (job : Job) (names : List String)

/-- Selecting some names leaves records out and lets no file fail that would not fail anyway. -/
theorem extract_selecting (path : String) :
    (job.selecting names).extract path =
      (job.selectingAll.extract path).map (List.filter (Record.isAmong names)) := by
  have loads : (job.selecting names).load path = job.selectingAll.load path := rfl
  rw [extract_eq, extract_eq, loads]
  cases (job.selectingAll.load path).value with
  | error fault => rfl
  | ok source => exact congrArg Except.ok (source.records_ofNames names job.options.unit)

theorem blocksOf_selecting (paths : List String) :
    (job.selecting names).blocksOf paths = narrowed names (job.selectingAll.blocksOf paths) := by
  unfold blocksOf narrowed
  rw [List.map_filterMap]
  apply List.filterMap_congr
  intro path _
  rw [extract_selecting]
  cases job.selectingAll.extract path with
  | error fault => rfl
  | ok records => rfl

/-- A run gets past the same paths, whatever is selected. -/
theorem reached_selecting (paths : List String) :
    (job.selecting names).reached paths = job.selectingAll.reached paths := rfl

theorem resultOf_selecting (paths : List String) :
    (job.selecting names).resultOf paths =
      (job.selectingAll.resultOf paths).map fun summary =>
        { summary with
          records := recordsIn (narrowed names
            (job.selectingAll.blocksOf (job.selectingAll.reached paths))) } := by
  have stops : (job.selecting names).stoppedBy? paths = job.selectingAll.stoppedBy? paths := rfl
  unfold resultOf
  rw [stops, reached_selecting]
  cases job.selectingAll.stoppedBy? paths with
  | some failure => rfl
  | none =>
      have counted := (job.selecting names).length_recordLinesOf (job.selectingAll.reached paths)
      rw [blocksOf_selecting] at counted
      simp only [tally, counted, Nat.zero_add, Except.map]
      rfl

/-- The blocks of a run with every category selected determine the same run with any names. -/
theorem run_selecting_same {paths : List String} (present : paths ≠ []) :
    ((job.selecting names).run {} paths).Same
      ⟨(job.selectingAll.run {} paths).result.map fun summary =>
          { summary with
            records := recordsIn (narrowed names
              (job.selectingAll.blocksOf (job.selectingAll.reached paths))) },
        { taken := written (narrowed names
          (job.selectingAll.blocksOf (job.selectingAll.reached paths))) }, []⟩ := by
  have part := @run_reaches (job.selecting names) {} paths present rfl rfl
  have whole := @run_reaches job.selectingAll {} paths present rfl rfl
  rw [whole.1, ← resultOf_selecting]
  refine part.trans ⟨rfl, ?_⟩
  rw [filled, outputOf_eq_written, reached_selecting, blocksOf_selecting]
  rfl

end Selecting

/-- A run with some names selected is the run with every category selected, less the record lines
of other names. The blocks are those of the same files under the same paths, each keeps the records
of the names in their order, and the result differs at most in the number of records, which is that
of the lines that are left. Names that denote no category, names given twice and the order of names
make no difference. -/
theorem run_selecting (job : Job) (paths names : List String) :
    let whole := job.selectingAll.run {} paths
    let part := (job.selecting names).run {} paths
    (∃ blocks : List (String × List Record),
      (blocks.map (·.1)).Sublist paths ∧
      (∀ entry ∈ blocks, job.selectingAll.extract entry.1 = .ok entry.2) ∧
      whole.sink.taken = written blocks ∧
      part.sink.taken = written (narrowed names blocks) ∧
      part.result = whole.result.map fun summary =>
        { summary with records := recordsIn (narrowed names blocks) }) ∧
    ∀ others : List String,
      (∀ category : Category, category.name ∈ names ↔ category.name ∈ others) →
      ((job.selecting others).run {} paths).sink.taken = part.sink.taken ∧
      ((job.selecting others).run {} paths).result = part.result := by
  dsimp only
  by_cases none : paths = []
  · subst none
    exact ⟨⟨[], List.Sublist.refl _, List.forall_mem_nil _, rfl, rfl, rfl⟩,
      fun _ _ => ⟨rfl, rfl⟩⟩
  · have part := job.run_selecting_same names none
    have whole := @run_reaches job.selectingAll {} paths none rfl rfl
    refine ⟨⟨job.selectingAll.blocksOf (job.selectingAll.reached paths), ?_, ?_, ?_, ?_, ?_⟩,
      fun others same => ?_⟩
    · exact (blocksOf_sublist _ _).trans (reached_sublist _ _)
    · exact fun entry => extract_of_mem_blocksOf
    · rw [whole.2, filled, outputOf_eq_written]
      rfl
    · rw [part.2]
    · exact part.1
    · have other := job.run_selecting_same others none
      have filters : narrowed others = narrowed names := by
        unfold narrowed
        rw [Record.isAmong_congr same]
      rw [filters] at other
      exact ⟨congrArg Sink.taken (other.2.trans part.2.symm), other.1.trans part.1.symm⟩

end SyntaxSpans.Job
