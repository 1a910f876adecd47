import SyntaxSpans.Fault
import SyntaxSpans.Text.Utf8

set_option autoImplicit false

namespace SyntaxSpans

/-- `room` is what still fits, if there is a limit at all. `refusal` is what a write fails with
that does not fit. -/
structure Sink where
  taken : Bytes := []
  room : Option Nat := none
  refusal : IoFault := .other "sink full"
  flushFault : Option IoFault := none

namespace Sink

/-- The sink after a write, and whether all of it was taken. -/
def write (sink : Sink) (bytes : Bytes) : Sink × Bool :=
  match sink.room with
  | none => ({ sink with taken := sink.taken ++ bytes }, true)
  | some room =>
      ({ sink with taken := sink.taken ++ bytes.take room, room := some (room - bytes.length) },
        bytes.length ≤ room)

/-- Several writes, up to the first that is not taken. -/
def writeAll (sink : Sink) : List Bytes → Sink × Bool
  | [] => (sink, true)
  | bytes :: rest =>
      let next := sink.write bytes
      if next.2 then next.1.writeAll rest else next

theorem writeAll_of_unlimited {sink : Sink} (unlimited : sink.room = none) (parts : List Bytes) :
    sink.writeAll parts = ({ sink with taken := sink.taken ++ parts.flatten }, true) := by
  induction parts generalizing sink with
  | nil => simp only [writeAll, List.flatten_nil, List.append_nil]
  | cons part rest ih =>
      have first : sink.write part = ({ sink with taken := sink.taken ++ part }, true) := by
        simp only [write, unlimited]
      have others := @ih { sink with taken := sink.taken ++ part } unlimited
      rw [writeAll, first]
      simp only [↓reduceIte, others, List.flatten_cons, List.append_assoc]

/-- It makes no difference how output is cut into writes. -/
theorem writeAll_eq_write (sink : Sink) (parts : List Bytes) :
    sink.writeAll parts = sink.write parts.flatten := by
  cases limit : sink.room with
  | none =>
      rw [writeAll_of_unlimited limit]
      simp only [write, limit]
  | some room =>
      induction parts generalizing sink room with
      | nil =>
          cases sink
          simp_all [writeAll, write]
      | cons part rest ih =>
          have first : sink.write part =
              ({ sink with
                  taken := sink.taken ++ part.take room, room := some (room - part.length) },
                decide (part.length ≤ room)) := by
            simp only [write, limit]
          rw [writeAll, first]
          by_cases fits : part.length ≤ room
          · simp only [fits, decide_true, ↓reduceIte]
            rw [ih _ (room - part.length) rfl]
            simp only [write, limit, List.flatten_cons, List.length_append, List.take_append,
              List.append_assoc, Nat.sub_sub]
            congr 1
            exact decide_eq_decide.mpr (by omega)
          · have gone : room - part.length = 0 := by omega
            simp only [fits, decide_false, Bool.false_eq_true, ↓reduceIte, write, limit,
              List.flatten_cons, List.length_append, List.take_append, gone, List.take_zero,
              List.append_nil]
            congr 1
            · congr 2
              omega
            · exact (decide_eq_false (by omega)).symm

end Sink

end SyntaxSpans
