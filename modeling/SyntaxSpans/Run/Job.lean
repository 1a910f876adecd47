import SyntaxSpans.Run.Summary
import SyntaxSpans.Source

set_option autoImplicit false

namespace SyntaxSpans

/-- What a run is asked to do, and the world it does it in. -/
structure Job where
  world : World
  options : Options
  selection : Selection

namespace Job

def line (text : String) : Bytes := Utf8.encode (text.toList ++ ['\n'])

def records (job : Job) (source : Source) : List Record :=
  source.records job.selection job.options.unit

/-- The lines of a source with these records. -/
def block (source : Source) (records : List Record) : List Bytes :=
  line source.path :: records.map fun record => line record.line

def load (job : Job) (path : String) : Logged (Except Fault Source) :=
  Source.load job.world job.options path

private def needed (source : Source) : Log.Event := .registryNeeded source.language

private def counted (source : Source) (count : Nat) : Log.Event :=
  .debug .run s!"{source.path}: {count} record(s)"

/-- What becomes of a fault of a file. A fault of the whole run ends it in any case; one of the
file ends it unless such files are to be skipped. -/
def settle (job : Job) (failure : Failure) : Except Fault (List Log.Event) :=
  if !failure.fault.isPerFile then .error failure.fault
  else
    match job.options.onError with
    | .abort => .error failure.fault
    | .skip => .ok [.warn .run s!"Skipping {failure.path}: {failure.fault.message}"]

/-- Loads and writes one file after the other. -/
def runInTurn (job : Job) (summary : Summary) (sink : Sink) : List String → Outcome
  | [] => ⟨.ok summary, sink, []⟩
  | path :: rest =>
      let loaded := job.load path
      match loaded.value with
      | .error fault =>
          match job.settle ⟨path, fault⟩ with
          | .error fault => ⟨.error fault, sink, loaded.events⟩
          | .ok events =>
              (job.runInTurn (summary.withFailure ⟨path, fault⟩) sink rest).after
                (loaded.events ++ events)
      | .ok source =>
          let records := job.records source
          let written := sink.writeAll (block source records)
          if written.2 then
            (job.runInTurn (summary.withFile records.length) written.1 rest).after
              (loaded.events ++ [needed source, counted source records.length])
          else ⟨.error (.unwritable sink.refusal), written.1, loaded.events ++ [needed source]⟩

/-- A block that is ready to be written, and how many records it holds. -/
structure Prepared where
  bytes : Bytes
  count : Nat

def prepare (job : Job) (path : String) : Logged (Except Fault Prepared) :=
  (job.load path).andThen fun source =>
    let records := job.records source
    ⟨.ok ⟨(block source records).flatten, records.length⟩,
      [needed source, counted source records.length]⟩

def deliver (job : Job) (summary : Summary) (sink : Sink) :
    List (String × Except Fault Prepared) → Outcome
  | [] => ⟨.ok summary, sink, []⟩
  | (path, .error fault) :: rest =>
      match job.settle ⟨path, fault⟩ with
      | .error fault => ⟨.error fault, sink, []⟩
      | .ok events => (job.deliver (summary.withFailure ⟨path, fault⟩) sink rest).after events
  | (_, .ok prepared) :: rest =>
      let written := sink.write prepared.bytes
      if written.2 then job.deliver (summary.withFile prepared.count) written.1 rest
      else ⟨.error (.unwritable sink.refusal), written.1, []⟩

def runTogether (job : Job) (sink : Sink) (paths : List String) : Outcome :=
  let prepared := paths.map fun path => (path, job.prepare path)
  (job.deliver {} sink (prepared.map fun entry => (entry.1, entry.2.value))).after
    (.debug .run s!"Parsing {paths.length} file(s) in parallel" ::
      prepared.flatMap fun entry => entry.2.events)

/-- The end of a run: if the sink cannot be flushed, that is all that counts. -/
def finish (outcome : Outcome) : Outcome :=
  match outcome.sink.flushFault with
  | some fault => { outcome with result := .error (.unwritable fault) }
  | none =>
      match outcome.result with
      | .error _ => outcome
      | .ok summary =>
          { outcome with events := outcome.events ++ [.info .run summary.message] }

/-- Runs over all files. Without any there is nothing to do, and the sink is not touched. -/
def run (job : Job) (sink : Sink) (paths : List String) : Outcome :=
  if paths.isEmpty then ⟨.error (.usage "no input files given"), sink, []⟩
  else
    finish <|
      if job.options.parallel then job.runTogether sink paths else job.runInTurn {} sink paths

end Job

end SyntaxSpans
