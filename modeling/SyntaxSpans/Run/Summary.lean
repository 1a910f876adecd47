import SyntaxSpans.Fault
import SyntaxSpans.Log.Event
import SyntaxSpans.Run.Sink

set_option autoImplicit false

namespace SyntaxSpans

/-- A file that was left out, and why. -/
structure Failure where
  path : String
  fault : Fault
  deriving DecidableEq

/-- What a run did: how many files and records were written, and which files were left out, in input
order. -/
structure Summary where
  files : Nat := 0
  records : Nat := 0
  failures : List Failure := []
  deriving DecidableEq

namespace Summary

def withFile (summary : Summary) (count : Nat) : Summary :=
  { summary with files := summary.files + 1, records := summary.records + count }

def withFailure (summary : Summary) (failure : Failure) : Summary :=
  { summary with failures := summary.failures ++ [failure] }

def message (summary : Summary) : String :=
  let failures := summary.failures.length
  s!"Processed {summary.files} file(s), {summary.records} record(s), {failures} failure(s)"

def isSuccess (summary : Summary) : Bool := summary.failures.isEmpty

end Summary

/-- The result of a run, the sink after it, and what was noted. -/
structure Outcome where
  result : Except Fault Summary
  sink : Sink
  events : List Log.Event

def Outcome.after (events : List Log.Event) (outcome : Outcome) : Outcome :=
  { outcome with events := events ++ outcome.events }

end SyntaxSpans
