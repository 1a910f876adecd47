import SyntaxSpans.Proofs.Report.Elements
import SyntaxSpans.Proofs.Run.Together
import SyntaxSpans.Proofs.Source.Loading

set_option autoImplicit false

namespace SyntaxSpans.Job

/-- The records of the file at a path, or why there are none. -/
def extract (job : Job) (path : String) : Except Fault (List Record) :=
  (Source.extractFile job.world job.options job.selection path).value

/-- The lines of the file at a path: the path itself, then one line for each record. -/
def blockOf (job : Job) (path : String) : List Bytes :=
  match job.extract path with
  | .error _ => []
  | .ok records => line path :: records.map fun record => line record.line

/-- The blocks of all files that have one. -/
def outputOf (job : Job) (paths : List String) : Bytes := (paths.flatMap job.blockOf).flatten

/-- The lines of these blocks but for their first. -/
def recordLinesOf (job : Job) (paths : List String) : List Bytes :=
  paths.flatMap fun path => (job.blockOf path).tail

/-- The failure of a path that cannot be loaded. -/
def failureOf? (job : Job) (path : String) : Option Failure :=
  match (job.load path).value with
  | .error fault => some ⟨path, fault⟩
  | .ok _ => none

def failuresOf (job : Job) (paths : List String) : List Failure := paths.filterMap job.failureOf?

/-- How many of the paths can be loaded. -/
def filesOf (job : Job) (paths : List String) : Nat :=
  paths.countP fun path => (job.failureOf? path).isNone

theorem extract_eq (job : Job) (path : String) :
    job.extract path = (job.load path).value.map job.records :=
  Source.extractFile_value job.world job.options job.selection path

theorem extract_error_iff (job : Job) (path : String) (fault : Fault) :
    job.extract path = .error fault ↔ (job.load path).value = .error fault := by
  rw [extract_eq]
  cases (job.load path).value with
  | error reason => simp only [Except.map, Except.error.injEq]
  | ok source => simp only [Except.map, reduceCtorEq]

theorem blockOf_of_loaded {job : Job} {path : String} {source : Source}
    (loaded : (job.load path).value = .ok source) :
    job.blockOf path = block source (job.records source) := by
  have kept : source.path = path := Source.path_of_load loaded
  simp only [blockOf, extract_eq, loaded, Except.map, block, kept]

theorem blockOf_of_failed {job : Job} {path : String} {fault : Fault}
    (failed : (job.load path).value = .error fault) : job.blockOf path = [] := by
  simp only [blockOf, extract_eq, failed, Except.map]

theorem settle_of_abort {job : Job} {path : String} {fault : Fault}
    (aborts : job.options.onError = .abort) : job.settle ⟨path, fault⟩ = .error fault := by
  simp only [settle, aborts, ite_self]

/-- Every failure to load can be skipped. -/
theorem settle_of_skip {job : Job} {path : String} {fault : Fault}
    (skips : job.options.onError = .skip) (failed : (job.load path).value = .error fault) :
    ∃ events, job.settle ⟨path, fault⟩ = .ok events := by
  have own : fault.isPerFile = true := Source.isPerFile_of_load failed
  refine ⟨[.warn .run s!"Skipping {path}: {fault.message}"], ?_⟩
  simp only [settle, skips, own, Bool.not_true, Bool.false_eq_true, ↓reduceIte]

def filled (job : Job) (sink : Sink) (paths : List String) : Sink :=
  { sink with taken := sink.taken ++ job.outputOf paths }

def tally (job : Job) (summary : Summary) (paths : List String) : Summary where
  files := summary.files + job.filesOf paths
  records := summary.records + (job.recordLinesOf paths).length
  failures := summary.failures ++ job.failuresOf paths

theorem filled_cons (job : Job) (sink : Sink) (path : String) (rest : List String) :
    job.filled (job.filled sink [path]) rest = job.filled sink (path :: rest) := by
  simp only [filled, outputOf, List.flatMap_cons, List.flatMap_nil, List.append_nil,
    List.flatten_append, List.append_assoc]

theorem tally_cons (job : Job) (summary : Summary) (path : String) (rest : List String) :
    job.tally (job.tally summary [path]) rest = job.tally summary (path :: rest) := by
  have files : job.filesOf (path :: rest) = job.filesOf [path] + job.filesOf rest := by
    simp only [filesOf, ← List.countP_append, List.singleton_append]
  have failures : job.failuresOf (path :: rest) = job.failuresOf [path] ++ job.failuresOf rest := by
    simp only [failuresOf, ← List.filterMap_append, List.singleton_append]
  simp only [tally, recordLinesOf, files, failures, List.flatMap_cons, List.flatMap_nil,
    List.append_nil, List.length_append, Nat.add_assoc, List.append_assoc]

theorem tally_loaded {job : Job} {path : String} {source : Source} (summary : Summary)
    (loaded : (job.load path).value = .ok source) :
    job.tally summary [path] = summary.withFile (job.records source).length := by
  simp [tally, filesOf, recordLinesOf, failuresOf, failureOf?, blockOf_of_loaded loaded, loaded,
    block, Summary.withFile]

theorem tally_failed {job : Job} {path : String} {fault : Fault} (summary : Summary)
    (failed : (job.load path).value = .error fault) :
    job.tally summary [path] = summary.withFailure ⟨path, fault⟩ := by
  simp [tally, filesOf, recordLinesOf, failuresOf, failureOf?, blockOf_of_failed failed, failed,
    Summary.withFailure]

theorem filled_failed {job : Job} {path : String} {fault : Fault} (sink : Sink)
    (failed : (job.load path).value = .error fault) : job.filled sink [path] = sink := by
  simp only [filled, outputOf, List.flatMap_cons, List.flatMap_nil, blockOf_of_failed failed,
    List.append_nil, List.flatten_nil]

section Steps

variable {job : Job} {summary : Summary} {sink : Sink} {path : String} (rest : List String)

/-- A file that loads adds its block and is counted. -/
theorem runInTurn_loaded {source : Source} (unlimited : sink.room = none)
    (loaded : (job.load path).value = .ok source) :
    (job.runInTurn summary sink (path :: rest)).Same
      (job.runInTurn (job.tally summary [path]) (job.filled sink [path]) rest) := by
  have written : sink.writeAll (block source (job.records source)) =
      (job.filled sink [path], true) := by
    rw [Sink.writeAll_of_unlimited unlimited]
    simp only [filled, outputOf, List.flatMap_cons, List.flatMap_nil, List.append_nil,
      blockOf_of_loaded loaded]
  rw [tally_loaded summary loaded]
  simp only [runInTurn, loaded, written, ↓reduceIte]
  exact ⟨rfl, rfl⟩

theorem runInTurn_skipped {fault : Fault} (skips : job.options.onError = .skip)
    (failed : (job.load path).value = .error fault) :
    (job.runInTurn summary sink (path :: rest)).Same
      (job.runInTurn (job.tally summary [path]) (job.filled sink [path]) rest) := by
  obtain ⟨events, settled⟩ := settle_of_skip skips failed
  rw [tally_failed summary failed, filled_failed sink failed]
  simp only [runInTurn, failed, settled]
  exact ⟨rfl, rfl⟩

theorem runInTurn_aborted {fault : Fault} (aborts : job.options.onError = .abort)
    (failed : (job.load path).value = .error fault) :
    (job.runInTurn summary sink (path :: rest)).Same ⟨.error fault, sink, []⟩ := by
  simp only [runInTurn, failed, settle_of_abort aborts]
  exact ⟨rfl, rfl⟩

end Steps

/-- Files that all load, or whose failures are skipped, are written and counted before the rest. -/
theorem runInTurn_append {job : Job} {sink : Sink} {before : List String} (summary : Summary)
    (after : List String) (unlimited : sink.room = none)
    (passes : job.options.onError = .skip ∨ ∀ path ∈ before, job.failureOf? path = none) :
    (job.runInTurn summary sink (before ++ after)).Same
      (job.runInTurn (job.tally summary before) (job.filled sink before) after) := by
  induction before generalizing summary sink with
  | nil => simp [tally, filled, outputOf, filesOf, failuresOf, recordLinesOf, Outcome.Same]
  | cons path rest ih =>
      have others : job.options.onError = .skip ∨ ∀ path ∈ rest, job.failureOf? path = none :=
        passes.imp_right fun all path member => all path (List.mem_cons_of_mem _ member)
      have first : (job.runInTurn summary sink (path :: (rest ++ after))).Same
          (job.runInTurn (job.tally summary [path]) (job.filled sink [path]) (rest ++ after)) := by
        cases loading : (job.load path).value with
        | ok source => exact runInTurn_loaded (rest ++ after) unlimited loading
        | error fault =>
            rcases passes with skips | all
            · exact runInTurn_skipped (rest ++ after) skips loading
            · have loads := all path List.mem_cons_self
              simp [failureOf?, loading] at loads
      have room : (job.filled sink [path]).room = none := unlimited
      have onward := ih (job.tally summary [path]) room others
      rw [tally_cons, filled_cons] at onward
      exact first.trans onward

section Runs

variable {job : Job} {sink : Sink} {paths : List String}

/-- A run to the end, past failures that are skipped or over files that all load. -/
theorem run_through (present : paths ≠ []) (unlimited : sink.room = none)
    (flushes : sink.flushFault = none)
    (passes : job.options.onError = .skip ∨ ∀ path ∈ paths, job.failureOf? path = none) :
    (job.run sink paths).Same ⟨.ok (job.tally {} paths), job.filled sink paths, []⟩ := by
  have through := runInTurn_append {} [] unlimited passes
  rw [List.append_nil] at through
  have finished := (finish_same through).trans (finish_of_flushed flushes)
  exact (job.run_same sink present).trans finished

/-- A run up to a failure that ends it. -/
theorem run_aborted {before : List String} {path : String} {fault : Fault} (after : List String)
    (unlimited : sink.room = none) (flushes : sink.flushFault = none)
    (aborts : job.options.onError = .abort)
    (loads : ∀ earlier ∈ before, job.failureOf? earlier = none)
    (failed : (job.load path).value = .error fault) :
    (job.run sink (before ++ path :: after)).Same ⟨.error fault, job.filled sink before, []⟩ := by
  have present : before ++ path :: after ≠ [] := by simp
  have upTo := runInTurn_append {} (path :: after) unlimited (.inr loads)
  have ended := upTo.trans (runInTurn_aborted after aborts failed)
  have finished := (finish_same ended).trans (finish_of_flushed flushes)
  exact (job.run_same sink present).trans finished

theorem filesOf_add_failuresOf (job : Job) (paths : List String) :
    job.filesOf paths + (job.failuresOf paths).length = paths.length := by
  induction paths with
  | nil => rfl
  | cons path rest ih =>
      cases failure : job.failureOf? path <;>
        simp [filesOf, failuresOf, failure] at ih ⊢ <;> omega

theorem failuresOf_of_loads (loads : ∀ path ∈ paths, job.failureOf? path = none) :
    job.failuresOf paths = [] := List.filterMap_eq_nil_iff.mpr loads

/-- What a run over files writes to a sink that takes everything, and what it returns. Loading and
extracting fail on the same paths for the same reason. Where failures are skipped the run returns
all of them in input order, and the output is the block of every other path. Where the first
failure aborts the run, the output ends with the blocks of the paths before it. -/
theorem run_writes_blocks (present : paths ≠ []) (unlimited : sink.room = none)
    (flushes : sink.flushFault = none) :
    (∀ path fault, (job.load path).value = .error fault ↔ job.extract path = .error fault) ∧
    (job.options.onError = .skip →
      (job.run sink paths).sink.taken = sink.taken ++ job.outputOf paths ∧
      ∃ summary, (job.run sink paths).result = .ok summary ∧
        summary.files + summary.failures.length = paths.length ∧
        summary.failures = job.failuresOf paths ∧
        summary.records = (job.recordLinesOf paths).length) ∧
    (job.options.onError = .abort →
      (∀ before path after fault, paths = before ++ path :: after →
        (∀ earlier ∈ before, job.failureOf? earlier = none) →
        (job.load path).value = .error fault →
        (job.run sink paths).sink.taken = sink.taken ++ job.outputOf before ∧
        (job.run sink paths).result = .error fault) ∧
      ((∀ path ∈ paths, job.failureOf? path = none) →
        (job.run sink paths).sink.taken = sink.taken ++ job.outputOf paths ∧
        (job.run sink paths).result =
          .ok ⟨paths.length, (job.recordLinesOf paths).length, []⟩)) := by
  refine ⟨fun path fault => (job.extract_error_iff path fault).symm, fun skips => ?_,
    fun aborts => ⟨?_, fun loads => ?_⟩⟩
  · have same := run_through present unlimited flushes (.inl skips)
    refine ⟨congrArg Sink.taken same.2, _, same.1, ?_, ?_, ?_⟩
    · simpa [tally] using job.filesOf_add_failuresOf paths
    · simp [tally]
    · simp [tally]
  · rintro before path after fault rfl loads failed
    have same := run_aborted after unlimited flushes aborts loads failed
    exact ⟨congrArg Sink.taken same.2, same.1⟩
  · have same := run_through present unlimited flushes (.inr loads)
    have files := job.filesOf_add_failuresOf paths
    rw [failuresOf_of_loads loads, List.length_nil, Nat.add_zero] at files
    refine ⟨congrArg Sink.taken same.2, same.1.trans ?_⟩
    simp [tally, files, failuresOf_of_loads loads]

end Runs

/-- A job over a world in which `A.java` is the only file. -/
def oneFile : Job where
  world :=
    { files := fun path =>
        if path = "A.java" then .ok (Utf8.encode "class A {}".toList) else .error .notFound
      parser := fun _ _ => some
        ⟨.node ⟨138, "program", ⟨0, 10⟩, true, false, none⟩
          [.node ⟨233, "class_declaration", ⟨0, 10⟩, true, false, none⟩ []], false⟩ }
  options := { onError := .skip }
  selection := .ofNames ["class"]

theorem extract_oneFile : oneFile.extract "A.java" = .ok [⟨.classDef, 0, 10⟩] := by
  have loaded : ∃ source, (oneFile.load "A.java").value = .ok source ∧
      oneFile.records source = [⟨.classDef, 0, 10⟩] := by
    refine ⟨_, rfl, ?_⟩
    simp only [records, Source.records, Extractor.extract_eq_append]
    decide
  obtain ⟨source, loaded, found⟩ := loaded
  simp only [extract_eq, loaded, Except.map, found]

/-- The file that is missing between two others is listed and leaves no gap in the output. -/
theorem run_writes_blocks_around_gap :
    oneFile.options.onError = .skip ∧
    (oneFile.run {} ["A.java", "B.java", "A.java"]).sink.taken =
      Utf8.encode "A.java\nclass - [0-10]\nA.java\nclass - [0-10]\n".toList ∧
    ∃ summary, (oneFile.run {} ["A.java", "B.java", "A.java"]).result = .ok summary ∧
      summary.failures = [⟨"B.java", .unreadable "B.java" .notFound⟩] ∧ summary.records = 2 := by
  obtain ⟨-, skip, -⟩ := @run_writes_blocks oneFile {} ["A.java", "B.java", "A.java"]
    (by decide) rfl rfl
  obtain ⟨taken, summary, result, -, failures, records⟩ := skip rfl
  have missing : oneFile.extract "B.java" = .error (.unreadable "B.java" .notFound) := rfl
  refine ⟨rfl, taken.trans ?_, summary, result, failures.trans (by decide), records.trans ?_⟩
  · simp only [outputOf, blockOf, extract_oneFile, missing, List.flatMap_cons, List.flatMap_nil]
    decide
  · simp only [recordLinesOf, blockOf, extract_oneFile, missing, List.flatMap_cons,
      List.flatMap_nil]
    rfl

end SyntaxSpans.Job
