import SyntaxSpans.Proofs.Run.Blocks

set_option autoImplicit false

namespace SyntaxSpans

namespace Sink

theorem write_nil (sink : Sink) : sink.write [] = (sink, true) := by
  have nothing := sink.writeAll_eq_write []
  rw [List.flatten_nil] at nothing
  exact nothing.symm

/-- A write in two parts: the second is tried only if all of the first was taken. -/
theorem write_append (sink : Sink) (first second : Bytes) :
    sink.write (first ++ second) =
      if (sink.write first).2 then (sink.write first).1.write second else sink.write first := by
  have last : (sink.write first).1.writeAll [second] = (sink.write first).1.write second := by
    rw [writeAll_eq_write, List.flatten_singleton]
  have both := sink.writeAll_eq_write [first, second]
  rw [List.flatten_cons, List.flatten_singleton, writeAll, last] at both
  exact both.symm

theorem refusal_write (sink : Sink) (bytes : Bytes) :
    (sink.write bytes).1.refusal = sink.refusal := by
  unfold write
  split <;> rfl

theorem flushFault_write (sink : Sink) (bytes : Bytes) :
    (sink.write bytes).1.flushFault = sink.flushFault := by
  unfold write
  split <;> rfl

end Sink

namespace Outcome

/-- The outcome that is left if all its output goes to another sink, in one write and after what is
there. A write that is refused takes the place of the result. -/
def sentTo (whole : Outcome) (sink : Sink) : Outcome :=
  let written := sink.write whole.sink.taken
  ⟨if written.2 then whole.result else .error (.unwritable sink.refusal), written.1, []⟩

theorem Same.sentTo {first second : Outcome} (same : first.Same second) (sink : Sink) :
    first.sentTo sink = second.sentTo sink := by
  unfold Outcome.sentTo
  rw [same.1, same.2]

theorem sentTo_of_silent {whole : Outcome} (silent : whole.sink.taken = []) (sink : Sink) :
    whole.sentTo sink = ⟨whole.result, sink, []⟩ := by
  simp only [sentTo, silent, Sink.write_nil, ↓reduceIte]

/-- Sent on behind other output, an outcome arrives only if that did. -/
theorem sentTo_sentTo (whole : Outcome) (bytes : Bytes) (sink : Sink) :
    (whole.sentTo { taken := bytes }).sentTo sink =
      if (sink.write bytes).2 then whole.sentTo (sink.write bytes).1
      else ⟨.error (.unwritable sink.refusal), (sink.write bytes).1, []⟩ := by
  have gathered : ({ taken := bytes } : Sink).write whole.sink.taken =
      ({ taken := bytes ++ whole.sink.taken }, true) := rfl
  simp only [sentTo, gathered, ↓reduceIte, Sink.write_append]
  cases taken : (sink.write bytes).2 with
  | true => simp only [↓reduceIte, Sink.refusal_write]
  | false => simp only [Bool.false_eq_true, ↓reduceIte, taken]

end Outcome

namespace Job

/-- A file that loads is one write, and the rest of the run follows if it was taken. -/
theorem runInTurn_of_loaded {job : Job} {path : String} {source : Source} (summary : Summary)
    (sink : Sink) (rest : List String) (loaded : (job.load path).value = .ok source) :
    let written := sink.write (block source (job.records source)).flatten
    (job.runInTurn summary sink (path :: rest)).Same
      (if written.2 then
        job.runInTurn (summary.withFile (job.records source).length) written.1 rest
      else ⟨.error (.unwritable sink.refusal), written.1, []⟩) := by
  dsimp only
  simp only [runInTurn, loaded, Sink.writeAll_eq_write]
  split
  · exact ⟨rfl, rfl⟩
  · exact ⟨rfl, rfl⟩

/-- A run comes to one write of all that it would write to a sink without a limit. -/
theorem runInTurn_sentTo (job : Job) (summary : Summary) (sink : Sink) (paths : List String) :
    (job.runInTurn summary sink paths).Same ((job.runInTurn summary {} paths).sentTo sink) := by
  induction paths generalizing summary sink with
  | nil =>
      rw [Outcome.sentTo_of_silent rfl]
      exact ⟨rfl, rfl⟩
  | cons path rest ih =>
      cases loaded : (job.load path).value with
      | error fault =>
          simp only [runInTurn, loaded]
          cases job.settle ⟨path, fault⟩ with
          | error last =>
              rw [Outcome.sentTo_of_silent rfl]
              exact ⟨rfl, rfl⟩
          | ok events => exact (ih (summary.withFailure ⟨path, fault⟩) sink).after _ []
      | ok source =>
          have bySink := runInTurn_of_loaded summary sink rest loaded
          have whole := runInTurn_of_loaded summary {} rest loaded
          dsimp only at bySink whole
          generalize (block source (job.records source)).flatten = bytes at bySink whole
          generalize summary.withFile (job.records source).length = next at bySink whole
          -- Without a limit the file is taken, and the rest goes behind it.
          have gathered : (job.runInTurn summary {} (path :: rest)).Same
              ((job.runInTurn next {} rest).sentTo { taken := bytes }) :=
            whole.trans (ih next { taken := bytes })
          rw [gathered.sentTo, Outcome.sentTo_sentTo]
          refine bySink.trans ?_
          split
          · exact ih next (sink.write bytes).1
          · exact ⟨rfl, rfl⟩

theorem runInTurn_flushFault (job : Job) (summary : Summary) (sink : Sink) (paths : List String) :
    (job.runInTurn summary sink paths).sink.flushFault = sink.flushFault := by
  rw [(job.runInTurn_sentTo summary sink paths).2]
  exact sink.flushFault_write _

section Runs

variable {paths : List String}

/-- A run whose sink can be flushed comes to one write of what it would write without a limit. -/
theorem run_sentTo (job : Job) (present : paths ≠ []) {sink : Sink}
    (flushes : sink.flushFault = none) :
    (job.run sink paths).Same ((job.run {} paths).sentTo sink) := by
  have whole : (job.run {} paths).Same (job.runInTurn {} {} paths) :=
    (job.run_same {} present).trans (finish_of_flushed (job.runInTurn_flushFault _ _ _))
  rw [whole.sentTo]
  have flushed : (job.runInTurn {} sink paths).sink.flushFault = none :=
    (job.runInTurn_flushFault _ _ _).trans flushes
  exact ((job.run_same sink present).trans (finish_of_flushed flushed)).trans
    (job.runInTurn_sentTo {} sink paths)

/-- A flush that fails is the result, whatever the run came to before it. -/
theorem run_unflushed (job : Job) (present : paths ≠ []) {sink : Sink} {fault : IoFault}
    (fails : sink.flushFault = some fault) :
    (job.run sink paths).result = .error (.unwritable fault) := by
  have failing : (job.runInTurn {} sink paths).sink.flushFault = some fault :=
    (job.runInTurn_flushFault _ _ _).trans fails
  rw [(job.run_same sink present).1, finish, failing]

/-- A sink that refuses everything after so many bytes is left with that many of the bytes that a
run would write in all, from the first on. If that is all of them, the result is the same as ever;
otherwise the refusal is the result, under either policy. A flush that fails comes before any other
result, whatever the sink took. -/
theorem run_cutoff (job : Job) (present : paths ≠ []) :
    (∀ room refusal,
      let whole := job.run {} paths
      let cut := job.run { room := some room, refusal := refusal } paths
      cut.sink.taken = whole.sink.taken.take room ∧
      (whole.sink.taken.length ≤ room → cut.result = whole.result) ∧
      (room < whole.sink.taken.length → cut.result = .error (.unwritable refusal))) ∧
    ∀ sink fault, sink.flushFault = some fault →
      (job.run sink paths).result = .error (.unwritable fault) := by
  refine ⟨fun room refusal => ?_, fun sink fault => job.run_unflushed present⟩
  dsimp only
  have flushes : ({ room := some room, refusal := refusal } : Sink).flushFault = none := rfl
  have same := job.run_sentTo present flushes
  rw [same.1, same.2]
  refine ⟨rfl, fun fits => ?_, fun exceeds => ?_⟩
  · exact if_pos (decide_eq_true fits)
  · have refused : ¬decide ((job.run {} paths).sink.taken.length ≤ room) = true := by
      rw [decide_eq_true_eq]
      omega
    exact if_neg refused

end Runs

theorem taken_oneFile :
    (oneFile.run {} ["A.java", "B.java", "A.java"]).sink.taken =
      Utf8.encode "A.java\nclass - [0-10]\nA.java\nclass - [0-10]\n".toList := by
  have through := @run_through oneFile {} ["A.java", "B.java", "A.java"] (by decide) rfl rfl
    (.inl rfl)
  have missing : oneFile.extract "B.java" = .error (.unreadable "B.java" .notFound) := rfl
  rw [through.2]
  simp only [filled, outputOf, blockOf, extract_oneFile, missing, List.flatMap_cons,
    List.flatMap_nil]
  decide

/-- The cut goes through the path of the third file, behind a failure that was skipped. -/
theorem run_cutoff_inside_path :
    ["A.java", "B.java", "A.java"] ≠ [] ∧
    (oneFile.run { room := some 25 } ["A.java", "B.java", "A.java"]).sink.taken =
      Utf8.encode "A.java\nclass - [0-10]\nA.j".toList ∧
    (oneFile.run { room := some 25 } ["A.java", "B.java", "A.java"]).result =
      .error (.unwritable (.other "sink full")) := by
  have present : ["A.java", "B.java", "A.java"] ≠ [] := by decide
  obtain ⟨taken, -, refused⟩ := (run_cutoff oneFile present).1 25 (.other "sink full")
  rw [taken_oneFile] at taken refused
  exact ⟨present, taken.trans (by decide), refused (by decide)⟩

end Job

end SyntaxSpans
