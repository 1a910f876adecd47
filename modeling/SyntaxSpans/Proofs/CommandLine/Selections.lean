import SyntaxSpans.Proofs.CommandLine.Endings
import SyntaxSpans.Proofs.Json.Spelling
import SyntaxSpans.Proofs.Text.Decoding

set_option autoImplicit false

/- The two ways to say what is selected. Arguments are read without regard to what is selected and
which paths are there already, so a selection in front of the paths and a file in its place lead to
the same input files, the same options and, if the file lists the same names, the same selection. -/
namespace SyntaxSpans.CommandLine

namespace Arguments

def isSelect (argument : String) : Bool :=
  match Look.of argument with
  | .option option _ => option == "--select"
  | _ => false

/-- Whether arguments are options alone, each with its value. -/
def onlyOptions : List String → Bool
  | [] => true
  | argument :: rest =>
      match Look.of argument with
      | .path => false
      | .onlyPaths => false
      | .letters _ => onlyOptions rest
      | .option option given =>
          if (settings.lookup option).isSome && given.isNone then
            match rest with
            | [] => false
            | _ :: rest => onlyOptions rest
          else onlyOptions rest

/-- The same arguments with another selection and with more paths in front. -/
def redirect (select : Option (List String)) (front : List String) (arguments : Arguments) :
    Arguments :=
  { arguments with select, positionals := front ++ arguments.positionals }

section Redirect

variable (select : Option (List String)) (front : List String) (arguments : Arguments)

theorem flip_redirect (option : String) (switch : Switch) :
    (arguments.redirect select front).flip option switch =
      (arguments.flip option switch).map (redirect select front) := by
  cases switch with
  | help | version | verbose => rfl
  | keepGoing | parallel | strict =>
      unfold flip
      dsimp only [redirect]
      rw [apply_ite (Except.map (redirect select front))]
      rfl

theorem set_redirect (option value : String) {setting : Setting} (other : setting ≠ .select) :
    (arguments.redirect select front).set option value setting =
      (arguments.set option value setting).map (redirect select front) := by
  cases setting with
  | select => exact absurd rfl other
  | language =>
      unfold set
      dsimp only [redirect]
      rw [apply_ite (Except.map (redirect select front))]
      cases Language.ofName value <;> rfl
  | unit =>
      unfold set
      dsimp only [redirect]
      rw [apply_ite (Except.map (redirect select front))]
      cases SpanUnit.ofName value <;> rfl

theorem position_redirect (path : String) :
    (arguments.redirect select front).position path =
      (arguments.position path).map (redirect select front) := by
  unfold position
  split
  · rfl
  · simp only [redirect, Except.map, List.append_assoc]

theorem cluster_redirect (letters : List Char) :
    (arguments.redirect select front).cluster letters =
      (arguments.cluster letters).map (redirect select front) := by
  fun_induction cluster arguments letters with
  | case1 arguments => rfl
  | case2 arguments letter rest option unknown =>
      simp only [cluster, unknown]
      rfl
  | case3 arguments letter rest option switch known request ended =>
      simp only [cluster, known, flip_redirect]
      rw [ended]
      rfl
  | case4 arguments letter rest option switch known next flipped ih =>
      simp only [cluster, known, flip_redirect]
      rw [flipped]
      exact ih

theorem positionAll_redirect (paths : List String) :
    (arguments.redirect select front).positionAll paths =
      (arguments.positionAll paths).map (redirect select front) := by
  fun_induction positionAll arguments paths with
  | case1 arguments => rfl
  | case2 arguments path rest request ended =>
      simp only [positionAll, position_redirect, ended, Except.map]
  | case3 arguments path rest next added ih =>
      simp only [positionAll, position_redirect, added, Except.map]
      exact ih

theorem option_of_select {option : String} (known : settings.lookup option = some .select) :
    option = "--select" := by
  unfold settings at known
  rw [List.lookup_cons] at known
  split at known
  · rename_i same
    exact eq_of_beq same
  · rw [List.lookup_cons] at known
    split at known
    · cases known
    · rw [List.lookup_cons] at known
      split at known
      · cases known
      · cases known

/-- Only the option for names depends on the names so far. -/
theorem ne_select {argument option : String} {given : Option String} {setting : Setting}
    (other : isSelect argument = false) (isOption : Look.of argument = .option option given)
    (known : settings.lookup option = some setting) : setting ≠ .select := by
  rintro rfl
  unfold isSelect at other
  rw [isOption, option_of_select known] at other
  cases other

/-- Arguments without the option for names are read alike whatever is selected already and whatever
paths come first. -/
theorem readAll_redirect {given : List String}
    (others : ∀ argument ∈ given, isSelect argument = false) :
    (arguments.redirect select front).readAll given =
      (arguments.readAll given).map (redirect select front) := by
  fun_induction readAll arguments given with
  | case1 arguments => rfl
  | case2 arguments path rest isPath request ended =>
      simp only [readAll, isPath, position_redirect, ended, Except.map]
  | case3 arguments path rest isPath next added ih =>
      simp only [readAll, isPath, position_redirect, added, Except.map]
      exact ih fun argument member => others argument (List.mem_cons_of_mem _ member)
  | case4 arguments argument rest dashes =>
      simp only [readAll, dashes]
      exact positionAll_redirect select front arguments rest
  | case5 arguments argument rest letters areLetters request ended =>
      simp only [readAll, areLetters, cluster_redirect, ended, Except.map]
  | case6 arguments argument rest letters areLetters next added ih =>
      simp only [readAll, areLetters, cluster_redirect, added, Except.map]
      exact ih fun argument member => others argument (List.mem_cons_of_mem _ member)
  | case7 arguments argument rest option setting value known request ended isOption =>
      have other := ne_select (others argument List.mem_cons_self) isOption known
      simp only [readAll, isOption, known, set_redirect _ _ _ _ _ other, ended, Except.map]
  | case8 arguments argument rest option setting value known next added isOption ih =>
      have other := ne_select (others argument List.mem_cons_self) isOption known
      simp only [readAll, isOption, known, set_redirect _ _ _ _ _ other, added, Except.map]
      exact ih fun argument member => others argument (List.mem_cons_of_mem _ member)
  | case9 arguments argument option setting known isOption =>
      simp only [readAll, isOption, known, Except.map]
  | case10 arguments argument option setting known value rest isPath request ended isOption =>
      have other := ne_select (others argument List.mem_cons_self) isOption known
      simp only [readAll, isOption, known, isPath, ↓reduceIte, set_redirect _ _ _ _ _ other, ended,
        Except.map]
  | case11 arguments argument option setting known value rest isPath next added isOption ih =>
      have other := ne_select (others argument List.mem_cons_self) isOption known
      simp only [readAll, isOption, known, isPath, ↓reduceIte, set_redirect _ _ _ _ _ other, added,
        Except.map]
      refine ih fun argument member => others argument ?_
      exact List.mem_cons_of_mem _ (List.mem_cons_of_mem _ member)
  | case12 arguments argument option setting known value rest notPath isOption =>
      simp only [readAll, isOption, known, notPath, Bool.false_eq_true, ↓reduceIte, Except.map]
  | case13 arguments argument rest option given isOption noSetting noSwitch =>
      simp only [readAll, isOption, noSetting, noSwitch, Except.map]
  | case14 arguments argument rest option given isOption noSetting switch known present =>
      simp only [readAll, isOption, noSetting, known, present, ↓reduceIte, Except.map]
  | case15 arguments argument rest option given isOption noSetting switch known absent request
      ended =>
      simp only [readAll, isOption, noSetting, known, absent, Bool.false_eq_true, ↓reduceIte,
        flip_redirect, ended, Except.map]
  | case16 arguments argument rest option given isOption noSetting switch known absent next added
      ih =>
      simp only [readAll, isOption, noSetting, known, absent, Bool.false_eq_true, ↓reduceIte,
        flip_redirect, added, Except.map]
      exact ih fun argument member => others argument (List.mem_cons_of_mem _ member)

/-- The option for names alone changes what is selected. -/
theorem select_of_readAll {arguments next : Arguments} {given : List String}
    (others : ∀ argument ∈ given, isSelect argument = false)
    (read : arguments.readAll given = .ok next) : next.select = arguments.select := by
  have same := readAll_redirect arguments.select [] arguments others
  have blank : arguments.redirect arguments.select [] = arguments := rfl
  rw [blank, read] at same
  have fixed : next = next.redirect arguments.select [] := Except.ok.inj same
  rw [fixed]
  rfl

end Redirect

section Front

variable {before : List String}

/-- Reading goes on behind options as it would behind nothing. -/
theorem readAll_append (only : onlyOptions before = true) (arguments : Arguments)
    (after : List String) :
    arguments.readAll (before ++ after) =
      (arguments.readAll before >>= fun next => next.readAll after) := by
  fun_induction onlyOptions before generalizing arguments with
  | case1 => rfl
  | case2 argument rest isPath => cases only
  | case3 argument rest dashes => cases only
  | case4 argument rest letters areLetters ih =>
      simp only [List.cons_append, readAll, areLetters]
      cases arguments.cluster letters with
      | error request => rfl
      | ok next => exact ih only next
  | case5 argument option given isOption valued => cases only
  | case6 argument option given isOption valued value rest ih =>
      rw [Bool.and_eq_true, Option.isSome_iff_exists, Option.isNone_iff_eq_none] at valued
      obtain ⟨⟨setting, known⟩, rfl⟩ := valued
      simp only [List.cons_append, readAll, isOption, known]
      by_cases isPath : (Look.of value).isPath = true
      · simp only [isPath, ↓reduceIte]
        cases arguments.set option value setting with
        | error request => rfl
        | ok next => exact ih only next
      · simp only [isPath, Bool.false_eq_true, ↓reduceIte]
        rfl
  | case7 argument rest option given isOption valued ih =>
      cases known : settings.lookup option with
      | some setting =>
          cases given with
          | none => exact absurd (by rw [known]; rfl) valued
          | some value =>
              simp only [List.cons_append, readAll, isOption, known]
              cases arguments.set option value setting with
              | error request => rfl
              | ok next => exact ih only next
      | none =>
          simp only [List.cons_append, readAll, isOption, known]
          cases switches.lookup option with
          | none => rfl
          | some switch =>
              by_cases present : given.isSome = true
              · simp only [present, ↓reduceIte]
                rfl
              · simp only [present, Bool.false_eq_true, ↓reduceIte]
                cases arguments.flip option switch with
                | error request => rfl
                | ok next => exact ih only next

theorem pathsAmong_of_onlyOptions (only : onlyOptions before = true) :
    pathsAmong false before = [] := by
  fun_induction onlyOptions before with
  | case1 => rfl
  | case2 argument rest isPath => cases only
  | case3 argument rest dashes => cases only
  | case4 argument rest letters areLetters ih =>
      simp only [pathsAmong, areLetters, Bool.false_eq_true, ↓reduceIte]
      exact ih only
  | case5 argument option given isOption valued => cases only
  | case6 argument option given isOption valued value rest ih =>
      simp only [pathsAmong, isOption, valued, Bool.false_eq_true, ↓reduceIte]
      exact ih only
  | case7 argument rest option given isOption valued ih =>
      rw [Bool.not_eq_true] at valued
      simp only [pathsAmong, isOption, valued, Bool.false_eq_true, ↓reduceIte]
      exact ih only

/-- Options other than that for names select nothing and add no path. -/
theorem readAll_front {arguments : Arguments} (only : onlyOptions before = true)
    (others : ∀ argument ∈ before, isSelect argument = false)
    (read : readAll {} before = .ok arguments) :
    arguments.select = none ∧ arguments.positionals = [] := by
  have adds := adds_readAll {} before
  rw [read, pathsAmong_of_onlyOptions only] at adds
  exact ⟨select_of_readAll others read, adds⟩

end Front

section Names

/-- Names joined by a character that none of them has are cut apart again. -/
theorem splitAtEvery_intercalate {separator : Char} {parts : List (List Char)}
    (present : parts ≠ []) (absent : ∀ part ∈ parts, separator ∉ part) :
    splitAtEvery separator ([separator].intercalate parts) = parts := by
  induction parts with
  | nil => exact absurd rfl present
  | cons part rest ih =>
      have own : separator ∉ part := absent part List.mem_cons_self
      cases rest with
      | nil =>
          rw [List.intercalate_singleton]
          exact splitAtEvery_of_not_mem own
      | cons next rest =>
          have onward := ih (List.cons_ne_nil _ _) fun other member =>
            absent other (List.mem_cons_of_mem _ member)
          rw [List.intercalate_cons_cons, List.append_assoc, List.singleton_append,
            splitAtEvery_append own, onward]

theorem map_ofList_toList (names : List String) :
    (names.map String.toList).map String.ofList = names := by
  rw [List.map_map]
  refine (List.map_congr_left fun name _ => ?_).trans (List.map_id names)
  exact String.ofList_toList

theorem splitText_intercalate {names : List String} (present : names ≠ [])
    (uncut : ∀ name ∈ names, ',' ∉ name.toList) : splitText ',' (",".intercalate names) = names := by
  have parts : ∀ part ∈ names.map String.toList, ',' ∉ part := by
    intro part member
    obtain ⟨name, listed, rfl⟩ := List.mem_map.mp member
    exact uncut name listed
  unfold splitText
  rw [String.toList_intercalate, show ",".toList = [','] from rfl,
    splitAtEvery_intercalate (mt List.map_eq_nil_iff.mp present) parts, map_ofList_toList]

theorem look_select (value : String) :
    Look.of ("--select=" ++ value) = .option "--select" (some value) := by
  have chars : ("--select=" ++ value).toList =
      '-' :: '-' :: 's' :: 'e' :: 'l' :: 'e' :: 'c' :: 't' :: '=' :: value.toList := by
    rw [String.toList_append]
    rfl
  unfold Look.of
  rw [chars]
  refine congrArg (Look.option "--select") (congrArg some ?_)
  exact String.ofList_toList

theorem readAll_select {names : List String} (present : names ≠ [])
    (uncut : ∀ name ∈ names, ',' ∉ name.toList) {arguments : Arguments}
    (unselected : arguments.select = none) (after : List String) :
    arguments.readAll (("--select=" ++ ",".intercalate names) :: after) =
      (arguments.redirect (some names) []).readAll after := by
  have known : settings.lookup "--select" = some .select := rfl
  simp only [readAll, look_select, known, set, unselected, Option.getD_none, List.nil_append,
    splitText_intercalate present uncut]
  rfl

theorem readAll_path {path : String} (filled : path ≠ "") (isPath : (Look.of path).isPath = true)
    {arguments : Arguments} (unselected : arguments.select = none)
    (first : arguments.positionals = []) (after : List String) :
    arguments.readAll (path :: after) = (arguments.redirect none [path]).readAll after := by
  have look : Look.of path = .path := by
    cases look : Look.of path with
    | path => rfl
    | onlyPaths | letters | option =>
        rw [look] at isPath
        cases isPath
  have nonempty : path.isEmpty = false := by
    rw [← Bool.not_eq_true, String.isEmpty_iff]
    exact filled
  have added : arguments.position path = .ok (arguments.redirect none [path]) := by
    simp only [position, nonempty, Bool.false_eq_true, ↓reduceIte, redirect, first, List.append_nil,
      List.nil_append, ← unselected]
  simp only [readAll, look, added]

end Names

end Arguments

section Sources

variable {names : List String} {declarations : String} {before after : List String}

/-- Names by option and names in a file lead to the same arguments, but for where the names are, or
to the same refusal. -/
theorem ofArguments_sources (present : names ≠ []) (uncut : ∀ name ∈ names, ',' ∉ name.toList)
    (filled : declarations ≠ "") (isPath : (Arguments.Look.of declarations).isPath = true)
    (only : Arguments.onlyOptions before = true)
    (others : ∀ argument ∈ before ++ after, Arguments.isSelect argument = false) :
    (∃ arguments,
      Request.ofArguments (before ++ ("--select=" ++ ",".intercalate names) :: after) =
        .accepted arguments ∧
      Request.ofArguments (before ++ declarations :: after) =
        .accepted (arguments.redirect none [declarations]) ∧
      arguments.select = some names) ∨
    Request.ofArguments (before ++ ("--select=" ++ ",".intercalate names) :: after) =
      Request.ofArguments (before ++ declarations :: after) := by
  have inFront : ∀ argument ∈ before, Arguments.isSelect argument = false :=
    fun argument member => others argument (List.mem_append_left _ member)
  have behind : ∀ argument ∈ after, Arguments.isSelect argument = false :=
    fun argument member => others argument (List.mem_append_right _ member)
  unfold Request.ofArguments
  rw [Arguments.readAll_append only, Arguments.readAll_append only]
  cases front : Arguments.readAll {} before with
  | error request => exact .inr rfl
  | ok first =>
      obtain ⟨unselected, empty⟩ := Arguments.readAll_front only inFront front
      have redirected := (first.redirect (some names) []).readAll_redirect none [declarations] behind
      have moved : (first.redirect (some names) []).redirect none [declarations] =
          first.redirect none [declarations] := rfl
      rw [moved] at redirected
      simp only [bind, Except.bind, Arguments.readAll_select present uncut unselected,
        Arguments.readAll_path filled isPath unselected empty, redirected]
      cases read : (first.redirect (some names) []).readAll after with
      | error request => exact .inr rfl
      | ok last =>
          have named : last.select = some names := Arguments.select_of_readAll behind read
          refine .inl ⟨last, ?_, ?_, named⟩
          · simp only [named, Option.isNone_some, Bool.and_false, Bool.false_eq_true, ↓reduceIte]
          · rfl

theorem load_of_spells {files : Snapshot} {text : List Char}
    (spelled : Json.SpellsList text (names.map String.toList))
    (written : files declarations = .ok (Utf8.encode text)) :
    Selection.load files declarations = .ok (.ofNames names) := by
  have read : Utf8.decode? (Utf8.encode text) = some text :=
    (Utf8.decode?_eq_some_iff _ _).mpr rfl
  simp only [Selection.load, Snapshot.readText, written, read, Selection.ofJson, spelled.document,
    Arguments.map_ofList_toList]

/-- Arguments with the same names in a file come to the same end. Only where there are no input
files may something else be noted, since the file is then not looked at. -/
theorem execute_redirect {world : World} {arguments : Arguments}
    (named : arguments.select = some names)
    (loaded : Selection.load world.files declarations = .ok (.ofNames names)) :
    (execute world arguments).exitCode =
      (execute world (arguments.redirect none [declarations])).exitCode ∧
    (execute world arguments).output =
      (execute world (arguments.redirect none [declarations])).output ∧
    (execute world arguments).complaints =
      (execute world (arguments.redirect none [declarations])).complaints := by
  have files : arguments.files = arguments.positionals := by
    simp only [Arguments.files, named, Option.isSome_some, ↓reduceIte]
  have files' : (arguments.redirect none [declarations]).files = arguments.positionals := rfl
  by_cases empty : arguments.positionals = []
  · obtain ⟨events, ended⟩ := execute_of_empty world (files.trans empty)
    obtain ⟨events', ended'⟩ := execute_of_empty world (files'.trans empty)
    rw [ended, ended']
    exact ⟨rfl, rfl, rfl⟩
  · have selected : arguments.selection world.files = .ok (.ofNames names) := by
      simp only [Arguments.selection, named]
    have selected' : (arguments.redirect none [declarations]).selection world.files =
        .ok (.ofNames names) := loaded
    rw [execute_of_selected (files ▸ empty) selected,
      execute_of_selected (files' ▸ empty) selected', files, files']
    exact ⟨rfl, rfl, rfl⟩

/-- Names by option or names in a file: the program ends alike. The first command line has the
names, joined by commas, where the second has the file that lists them, in any spelling. In front
there may be any options and behind any arguments, but for more names by option. They may be wrong
or ask for help: then both are refused for the same reason, or both are helped. Only what is said in
those two cases is worded by `Refusal.message` and `helpText`, and stands for what an argument
parser says. -/
theorem run_sources (world : World) (present : names ≠ [])
    (uncut : ∀ name ∈ names, ',' ∉ name.toList) (filled : declarations ≠ "")
    (isPath : (Arguments.Look.of declarations).isPath = true) {text : List Char}
    (spelled : Json.SpellsList text (names.map String.toList))
    (written : world.files declarations = .ok (Utf8.encode text))
    (only : Arguments.onlyOptions before = true)
    (others : ∀ argument ∈ before ++ after, Arguments.isSelect argument = false) :
    let selected := run world (before ++ ("--select=" ++ ",".intercalate names) :: after)
    let listed := run world (before ++ declarations :: after)
    selected.exitCode = listed.exitCode ∧ selected.output = listed.output ∧
      selected.complaints = listed.complaints := by
  dsimp only
  unfold run
  rcases @ofArguments_sources names declarations before after present uncut filled isPath only
    others with ⟨arguments, accepted, accepted', named⟩ | same
  · rw [accepted, accepted']
    exact execute_redirect named (load_of_spells spelled written)
  · rw [same]
    exact ⟨rfl, rfl, rfl⟩

end Sources

/-- A list of two names, one of them with an escape. -/
def namesText : List Char := " [\"\\u0063lass\" ,\n\"comment\"]\n".toList

theorem spells_namesText : Json.SpellsList namesText (["class", "comment"].map String.toList) := by
  have letter : Json.SpellsUnit ['0', '0', '6', '3'] 0x63 := by
    refine @Json.SpellsUnit.digits '0' '0' '6' '3' 0 0 6 3 0x63 ?_ ?_ ?_ ?_ rfl
    all_goals exact ⟨by decide, .inl (by decide)⟩
  have first : Json.Spells "\\u0063lass".toList "class".toList :=
    .single rfl letter (.ofPlain (by decide))
  have second : Json.Spells "comment".toList "comment".toList := .ofPlain (by decide)
  have others : Json.SpellsRest " ,\n\"comment\"]".toList ["comment".toList] :=
    @Json.SpellsRest.next [' '] ['\n'] _ _ _ _ (by decide) (by decide) second
      (@Json.SpellsRest.close [] (by decide))
  exact @Json.SpellsList.filled [' '] [] _ _ _ ['\n'] _ (by decide) (by decide) first others
    (by decide)

/-- A file of names and one input file, with a comment in front of a class. -/
def namesWorld : World where
  files := fun path =>
    if path = "names.json" then .ok (Utf8.encode namesText)
    else if path = "A.java" then .ok (Utf8.encode "//c\nclass A {}".toList)
    else .error .notFound
  parser := fun _ _ => some
    ⟨.node ⟨138, "program", ⟨0, 14⟩, true, false, none⟩
      [.node ⟨136, "line_comment", ⟨0, 3⟩, true, true, none⟩ [],
        .node ⟨233, "class_declaration", ⟨4, 14⟩, true, false, none⟩ []], false⟩

/-- Arguments for an input file that is there and one that is not. -/
def namesGiven (names : String) : List String :=
  ["--unit", "lines", names, "A.java", "B.java", "--keep-going", "-v"]

theorem run_sources_names :
    namesWorld.files "names.json" = .ok (Utf8.encode namesText) ∧
    (run namesWorld (namesGiven "--select=class,comment")).exitCode =
      (run namesWorld (namesGiven "names.json")).exitCode ∧
    (run namesWorld (namesGiven "--select=class,comment")).output =
      (run namesWorld (namesGiven "names.json")).output ∧
    (run namesWorld (namesGiven "--select=class,comment")).complaints =
      (run namesWorld (namesGiven "names.json")).complaints ∧
    (run namesWorld (namesGiven "names.json")).exitCode = 1 ∧
    (run namesWorld (namesGiven "names.json")).output =
      Utf8.encode "A.java\nclass - [2-2]\ncomment - [1-1]\n".toList ∧
    (run namesWorld (namesGiven "names.json")).complaints =
      ["1 file(s) could not be processed:",
        "  failed to read B.java: No such file or directory (os error 2)"] := by
  obtain ⟨exitCode, output, complaints⟩ := @run_sources ["class", "comment"] "names.json"
    ["--unit", "lines"] ["A.java", "B.java", "--keep-going", "-v"] namesWorld (by decide)
    (by decide) (by decide) (by decide) namesText spells_namesText rfl (by decide) (by decide)
  exact ⟨rfl, exitCode, output, complaints, by decide +kernel⟩

end SyntaxSpans.CommandLine
