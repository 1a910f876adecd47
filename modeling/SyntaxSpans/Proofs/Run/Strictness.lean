import SyntaxSpans.Proofs.Run.Blocks
import SyntaxSpans.Proofs.Tree.Children

set_option autoImplicit false

namespace SyntaxSpans

namespace Source

/-- What a strict run does about a source that has been parsed. -/
def refuseErrors (path : String) (source : Source) : Except Fault Source :=
  if source.parse.hasErrors then .error (.unparsable path "source contains syntax errors")
  else .ok source

variable {parser : Parser} {options : Options} {path : String} {language : Language}
  {text : List Char}

/-- Strictness is one more step after the text has been parsed. -/
theorem ofText_strict (strict : Bool) :
    (ofText parser { options with strict := strict } path language text).value =
      (ofText parser { options with strict := false } path language text).value >>=
        fun source => if strict then refuseErrors path source else .ok source := by
  unfold ofText
  dsimp only
  cases parser language (Utf8.dropMark text) with
  | none => rfl
  | some parse =>
      obtain ⟨root, hasErrors⟩ := parse
      cases strict with
      | false => rfl
      | true =>
          cases hasErrors with
          | false => rfl
          | true => rfl

theorem ofText_lenient {parse : Parse} (lenient : options.strict = false)
    (parsed : parser language (Utf8.dropMark text) = some parse) :
    (ofText parser options path language text).value =
      .ok ⟨path, language, Utf8.dropMark text, parse⟩ := by
  simp only [ofText, parsed, lenient, Bool.false_and, Bool.false_eq_true, ↓reduceIte]

end Source

namespace Job

/-- Everything about a job stays but what it makes of trees with errors. -/
def withStrict (job : Job) (strict : Bool) : Job :=
  { job with options := { job.options with strict := strict } }

/-- A file that loads in a lenient run, with a tree that has errors. -/
def isBroken (job : Job) (path : String) : Bool :=
  match ((job.withStrict false).load path).value with
  | .error _ => false
  | .ok source => source.parse.hasErrors

/-- What a strict run says of a file that is broken. -/
def brokenFailure (path : String) : Failure :=
  ⟨path, .unparsable path "source contains syntax errors"⟩

section Files

variable {job : Job} {path : String}

/-- A strict run loads a file as a lenient one does, and then looks for errors. -/
theorem load_strict :
    ((job.withStrict true).load path).value =
      ((job.withStrict false).load path).value >>= Source.refuseErrors path := by
  unfold load
  rw [Source.load_value, Source.load_value]
  have language : (job.withStrict true).options.languageFor path =
      (job.withStrict false).options.languageFor path := rfl
  rw [language]
  cases (job.withStrict false).options.languageFor path with
  | error fault => rfl
  | ok language =>
      simp only [bind, Except.bind, withStrict]
      cases (Source.readText job.world.files path).value with
      | error fault => rfl
      | ok text => exact Source.ofText_strict true

theorem isBroken_iff :
    job.isBroken path = true ↔
      ∃ source, ((job.withStrict false).load path).value = .ok source ∧
        source.parse.hasErrors = true := by
  unfold isBroken
  cases ((job.withStrict false).load path).value with
  | error fault => simp only [Bool.false_eq_true, reduceCtorEq, false_and, exists_false]
  | ok source => simp only [Except.ok.injEq, exists_eq_left']

theorem load_of_isBroken (broken : job.isBroken path = true) :
    ((job.withStrict true).load path).value = .error (brokenFailure path).fault := by
  obtain ⟨source, loaded, errors⟩ := isBroken_iff.mp broken
  rw [load_strict, loaded]
  exact if_pos errors

/-- A file that is not broken loads in a strict run, or fails there, as in a lenient one. -/
theorem load_of_not_isBroken (sound : job.isBroken path = false) :
    ((job.withStrict true).load path).value = ((job.withStrict false).load path).value := by
  rw [load_strict]
  unfold isBroken at sound
  cases loaded : ((job.withStrict false).load path).value with
  | error fault => rfl
  | ok source =>
      rw [loaded] at sound
      have clean : ¬source.parse.hasErrors = true := Bool.not_eq_true _ ▸ sound
      exact if_neg clean

theorem records_withStrict (strict : Bool) (source : Source) :
    (job.withStrict strict).records source = job.records source := rfl

/-- A broken file has no block in a strict run; every other file keeps its block. -/
theorem blockOf_strict :
    (job.withStrict true).blockOf path =
      if job.isBroken path then [] else (job.withStrict false).blockOf path := by
  cases broken : job.isBroken path with
  | true => exact blockOf_of_failed (load_of_isBroken broken)
  | false =>
      have same := load_of_not_isBroken broken
      cases loaded : ((job.withStrict false).load path).value with
      | error fault =>
          rw [loaded] at same
          rw [blockOf_of_failed same, if_neg Bool.false_ne_true, blockOf_of_failed loaded]
      | ok source =>
          rw [loaded] at same
          rw [blockOf_of_loaded same, if_neg Bool.false_ne_true, blockOf_of_loaded loaded,
            records_withStrict, records_withStrict]

/-- A broken file fails in a strict run; every other file keeps its failure, if it has one. -/
theorem failureOf?_strict :
    (job.withStrict true).failureOf? path =
      if job.isBroken path then some (brokenFailure path)
      else (job.withStrict false).failureOf? path := by
  unfold failureOf?
  cases broken : job.isBroken path with
  | true =>
      rw [load_of_isBroken broken]
      rfl
  | false => rw [load_of_not_isBroken broken, if_neg Bool.false_ne_true]

/-- A broken file is none of those that fail in a lenient run. -/
theorem failureOf?_of_isBroken (broken : job.isBroken path = true) :
    (job.withStrict false).failureOf? path = none := by
  obtain ⟨source, loaded, -⟩ := isBroken_iff.mp broken
  simp only [failureOf?, loaded]

/-- Where the parser always makes a tree, no lenient failure has to do with parsing. -/
theorem load_lenient_ne_unparsable
    (parses : ∀ language text, (job.world.parser language text).isSome = true)
    (named reason : String) :
    ((job.withStrict false).load path).value ≠ .error (.unparsable named reason) := by
  intro failed
  unfold load at failed
  rw [Source.load_value] at failed
  cases found : (job.withStrict false).options.languageFor path with
  | error fault =>
      rw [found, Source.fault_of_languageFor found] at failed
      cases failed
  | ok language =>
      rw [found] at failed
      cases read : (Source.readText (job.withStrict false).world.files path).value with
      | error fault =>
          obtain ⟨cause, rfl⟩ := Source.fault_of_readText read
          rw [read] at failed
          cases failed
      | ok text =>
          rw [read] at failed
          obtain ⟨parse, parsed⟩ :=
            Option.isSome_iff_exists.mp (parses language (Utf8.dropMark text))
          have loaded := @Source.ofText_lenient job.world.parser (job.withStrict false).options path
            language text parse rfl parsed
          cases loaded.symm.trans failed

/-- Where the parser always makes a tree, a strict run finds a file unparsable if it is broken, and
never for another reason. -/
theorem load_strict_unparsable_iff
    (parses : ∀ language text, (job.world.parser language text).isSome = true)
    (named reason : String) :
    ((job.withStrict true).load path).value = .error (.unparsable named reason) ↔
      job.isBroken path = true ∧ named = path ∧ reason = "source contains syntax errors" := by
  cases broken : job.isBroken path with
  | true =>
      rw [load_of_isBroken broken, brokenFailure, Except.error.injEq, Fault.unparsable.injEq]
      simp only [true_and, eq_comm]
  | false =>
      have other := @load_lenient_ne_unparsable job path parses named reason
      rw [load_of_not_isBroken broken]
      simp only [other, Bool.false_eq_true, false_and]

end Files

section Lists

variable {job : Job} {paths : List String}

/-- Whatever is taken from each block, a strict run has what the lenient one has of the files that are
not broken. -/
theorem flatMap_blockOf_strict {α : Type} {part : List Bytes → List α} (empty : part [] = []) :
    (paths.flatMap fun path => part ((job.withStrict true).blockOf path)) =
      (paths.filter fun path => !job.isBroken path).flatMap fun path =>
        part ((job.withStrict false).blockOf path) := by
  rw [flatMap_filter]
  apply List.flatMap_congr
  intro path _
  rw [blockOf_strict]
  cases job.isBroken path with
  | true => exact empty
  | false => rfl

/-- The output of a strict run is the lenient one, less the blocks of the broken files. -/
theorem outputOf_strict :
    (job.withStrict true).outputOf paths =
      ((paths.filter fun path => !job.isBroken path).flatMap
        (job.withStrict false).blockOf).flatten :=
  congrArg List.flatten (@flatMap_blockOf_strict job paths Bytes id rfl)

theorem length_recordLinesOf_strict :
    ((job.withStrict true).recordLinesOf paths).length +
        ((job.withStrict false).recordLinesOf (paths.filter job.isBroken)).length =
      ((job.withStrict false).recordLinesOf paths).length := by
  have sound : (job.withStrict true).recordLinesOf paths =
      (job.withStrict false).recordLinesOf (paths.filter fun path => !job.isBroken path) :=
    @flatMap_blockOf_strict job paths Bytes List.tail rfl
  have parts := (List.filter_append_perm job.isBroken paths).flatMap_right fun path =>
    ((job.withStrict false).blockOf path).tail
  rw [List.flatMap_append] at parts
  have counted := parts.length_eq
  rw [List.length_append] at counted
  rw [sound, Nat.add_comm]
  exact counted

theorem filesOf_strict :
    (job.withStrict true).filesOf paths + paths.countP job.isBroken =
      (job.withStrict false).filesOf paths := by
  unfold filesOf
  induction paths with
  | nil => rfl
  | cons path rest ih =>
      have own := @failureOf?_strict job path
      simp only [List.countP_cons, own]
      cases broken : job.isBroken path with
      | true =>
          simp only [failureOf?_of_isBroken broken, ↓reduceIte, Option.isNone_some,
            Option.isNone_none, Bool.false_eq_true]
          omega
      | false =>
          simp only [Bool.false_eq_true, ↓reduceIte]
          omega

/-- The failures of a strict run are the lenient ones, with the broken files among them. -/
theorem failuresOf_strict :
    (job.withStrict true).failuresOf paths =
      paths.filterMap fun path =>
        if job.isBroken path then some (brokenFailure path)
        else (job.withStrict false).failureOf? path := by
  apply List.filterMap_congr
  intro path _
  exact failureOf?_strict

end Lists

/-- A run that skips failures writes the blocks of all files that have one. -/
theorem taken_of_skip {job : Job} {sink : Sink} (skips : job.options.onError = .skip)
    (unlimited : sink.room = none) (flushes : sink.flushFault = none) (paths : List String) :
    (job.run sink paths).sink.taken = sink.taken ++ job.outputOf paths := by
  by_cases present : paths = []
  · subst present
    exact (List.append_nil _).symm
  · have through := run_through present unlimited flushes (.inl skips)
    exact congrArg Sink.taken through.2

/-- A strict run that skips failures, in either way of working, into a sink that takes everything,
beside the lenient run. Its output is the lenient output without the blocks of the broken files,
which are those that load with errors in their trees. Its failures are the lenient ones with each
broken file put in at its place in the input; the counts go down by what the broken files had. Every
other file has the block or the failure that it has in the lenient run. Where the parser always
makes a tree, nothing but a broken file is ever said to be unparsable. -/
theorem run_strict (job : Job) {sink : Sink} (skips : job.options.onError = .skip)
    (unlimited : sink.room = none) (flushes : sink.flushFault = none) (paths : List String) :
    let lenient := job.withStrict false
    let strict := job.withStrict true
    (∀ path, job.isBroken path = true ↔
      ∃ source, (lenient.load path).value = .ok source ∧ source.parse.hasErrors = true) ∧
    (∀ path, job.isBroken path = false →
      strict.blockOf path = lenient.blockOf path ∧
      strict.failureOf? path = lenient.failureOf? path) ∧
    (lenient.run sink paths).sink.taken =
      sink.taken ++ (paths.flatMap lenient.blockOf).flatten ∧
    (strict.run sink paths).sink.taken = sink.taken ++
      ((paths.filter fun path => !job.isBroken path).flatMap lenient.blockOf).flatten ∧
    (paths = [] → (strict.run sink paths).result = (lenient.run sink paths).result) ∧
    (paths ≠ [] → ∃ whole part : Summary,
      (lenient.run sink paths).result = .ok whole ∧ (strict.run sink paths).result = .ok part ∧
      whole.failures = paths.filterMap lenient.failureOf? ∧
      (part.failures = paths.filterMap fun path =>
        if job.isBroken path then
          some ⟨path, .unparsable path "source contains syntax errors"⟩
        else lenient.failureOf? path) ∧
      part.files + paths.countP job.isBroken = whole.files ∧
      part.records + (lenient.recordLinesOf (paths.filter job.isBroken)).length =
        whole.records) ∧
    ((∀ language text, (job.world.parser language text).isSome = true) →
      ∀ path named reason,
        (lenient.load path).value ≠ .error (.unparsable named reason) ∧
        ((strict.load path).value = .error (.unparsable named reason) ↔
          job.isBroken path = true ∧
            named = path ∧ reason = "source contains syntax errors")) := by
  dsimp only
  have skipsLenient : (job.withStrict false).options.onError = .skip := skips
  have skipsStrict : (job.withStrict true).options.onError = .skip := skips
  refine ⟨fun path => isBroken_iff, fun path sound => ?_, ?_, ?_, ?_, fun present => ?_,
    fun parses path named reason => ⟨load_lenient_ne_unparsable parses named reason,
      load_strict_unparsable_iff parses named reason⟩⟩
  · rw [blockOf_strict, failureOf?_strict, sound]
    exact ⟨rfl, rfl⟩
  · exact taken_of_skip skipsLenient unlimited flushes paths
  · rw [← outputOf_strict]
    exact taken_of_skip skipsStrict unlimited flushes paths
  · rintro rfl
    rfl
  · have whole := run_through present unlimited flushes (.inl skipsLenient)
    have part := run_through present unlimited flushes (.inl skipsStrict)
    refine ⟨_, _, whole.1, part.1, ?_, ?_, ?_, ?_⟩
    · exact List.nil_append _
    · exact (List.nil_append _).trans failuresOf_strict
    · simp only [tally, Nat.zero_add]
      exact filesOf_strict
    · simp only [tally, Nat.zero_add]
      exact length_recordLinesOf_strict

/-- A job over three files: one is whole, one is cut off, and one is missing. -/
def cutOffFile : Job where
  world :=
    { files := fun path =>
        if path = "A.java" then .ok (Utf8.encode "class A {}".toList)
        else if path = "B.java" then .ok (Utf8.encode "class B \x7b".toList)
        else .error .notFound
      parser := fun _ text => some
        ⟨.node ⟨138, "program", ⟨0, text.length⟩, true, false, none⟩
          [.node ⟨233, "class_declaration", ⟨0, text.length⟩, true, false, none⟩ []],
          !text.contains '\x7d'⟩ }
  options := { onError := .skip }
  selection := .ofNames ["class"]

theorem extract_cutOffFile :
    (cutOffFile.withStrict false).extract "A.java" = .ok [⟨.classDef, 0, 10⟩] := by
  have loaded : ∃ source, ((cutOffFile.withStrict false).load "A.java").value = .ok source ∧
      (cutOffFile.withStrict false).records source = [⟨.classDef, 0, 10⟩] := by
    refine ⟨_, rfl, ?_⟩
    simp only [records, Source.records, Extractor.extract_eq_append]
    decide
  obtain ⟨source, loaded, found⟩ := loaded
  simp only [extract_eq, loaded, Except.map, found]

/-- The block of the file that is cut off goes, and its failure stands in front of the one that
was there. -/
theorem run_strict_cutOffFile :
    cutOffFile.options.onError = .skip ∧
    ((cutOffFile.withStrict true).run {} ["A.java", "B.java", "C.java"]).sink.taken =
      Utf8.encode "A.java\nclass - [0-10]\n".toList ∧
    ∃ part : Summary,
      ((cutOffFile.withStrict true).run {} ["A.java", "B.java", "C.java"]).result = .ok part ∧
      part.failures =
        [⟨"B.java", .unparsable "B.java" "source contains syntax errors"⟩,
          ⟨"C.java", .unreadable "C.java" .notFound⟩] := by
  obtain ⟨-, -, -, taken, -, summaries, -⟩ :=
    @run_strict cutOffFile {} rfl rfl rfl ["A.java", "B.java", "C.java"]
  obtain ⟨whole, part, -, finished, -, failures, -⟩ := summaries (by decide)
  have left : ["A.java", "B.java", "C.java"].filter (fun path => !cutOffFile.isBroken path) =
      ["A.java", "C.java"] := by decide
  have missing : (cutOffFile.withStrict false).extract "C.java" =
      .error (.unreadable "C.java" .notFound) := rfl
  refine ⟨rfl, taken.trans ?_, part, finished, failures.trans (by decide)⟩
  simp only [left, blockOf, extract_cutOffFile, missing, List.flatMap_cons, List.flatMap_nil]
  decide

end Job

end SyntaxSpans
