import SyntaxSpans.CommandLine.Execute

set_option autoImplicit false

namespace SyntaxSpans.CommandLine

namespace Arguments

/-- Reading on adds just these paths, unless it ends. Nothing is accepted before all is read. -/
def Adds (arguments : Arguments) (paths : List String) : Except Request Arguments → Prop
  | .ok next => next.positionals = arguments.positionals ++ paths
  | .error request => ∀ early, request ≠ .accepted early

theorem Adds.trans {arguments next : Arguments} {first others : List String}
    {result : Except Request Arguments} (left : arguments.Adds first (.ok next))
    (right : next.Adds others result) : arguments.Adds (first ++ others) result := by
  cases result with
  | error request => exact right
  | ok last =>
      have both : last.positionals = arguments.positionals ++ first ++ others := left ▸ right
      exact both.trans (List.append_assoc _ _ _)

theorem adds_refused {arguments : Arguments} {paths : List String} (refusal : Refusal) :
    arguments.Adds paths (.error (.refused refusal)) :=
  fun _ => Request.noConfusion

/-- An end is the same whatever would have been added. -/
theorem Adds.ended {arguments : Arguments} {paths : List String} {request : Request}
    {result : Except Request Arguments} (adds : arguments.Adds paths result)
    (ended : result = .error request) (others : List String) :
    arguments.Adds others (.error request) := by
  subst ended
  exact adds

theorem adds_nil {arguments next : Arguments} (same : next.positionals = arguments.positionals) :
    arguments.Adds [] (.ok next) :=
  same.trans (List.append_nil _).symm

theorem adds_flip (arguments : Arguments) (option : String) (switch : Switch) :
    arguments.Adds [] (arguments.flip option switch) := by
  cases switch with
  | help | version => exact fun _ => Request.noConfusion
  | verbose => exact adds_nil rfl
  | keepGoing | parallel | strict =>
      unfold flip
      dsimp only
      split
      · exact adds_refused _
      · exact adds_nil rfl

theorem adds_set (arguments : Arguments) (option value : String) (setting : Setting) :
    arguments.Adds [] (arguments.set option value setting) := by
  cases setting with
  | select => exact adds_nil rfl
  | language | unit =>
      unfold set
      dsimp only
      split
      · exact adds_refused _
      · split
        · exact adds_refused _
        · exact adds_nil rfl

theorem adds_position (arguments : Arguments) (path : String) :
    arguments.Adds [path] (arguments.position path) := by
  unfold position
  split
  · exact adds_refused _
  · rfl

theorem adds_cluster (arguments : Arguments) (letters : List Char) :
    arguments.Adds [] (arguments.cluster letters) := by
  fun_induction cluster arguments letters with
  | case1 arguments => exact adds_nil rfl
  | case2 arguments letter rest option unknown => exact adds_refused _
  | case3 arguments letter rest option switch known request ended =>
      exact (arguments.adds_flip option switch).ended ended _
  | case4 arguments letter rest option switch known next flipped ih =>
      exact Adds.trans (flipped ▸ arguments.adds_flip option switch) ih

theorem adds_positionAll (arguments : Arguments) (paths : List String) :
    arguments.Adds paths (arguments.positionAll paths) := by
  fun_induction positionAll arguments paths with
  | case1 arguments => exact adds_nil rfl
  | case2 arguments path rest request ended =>
      exact (arguments.adds_position path).ended ended _
  | case3 arguments path rest next added ih =>
      exact Adds.trans (added ▸ arguments.adds_position path) ih

/-- The arguments that are paths: those that look like one, but for the values of settings, and all
behind two dashes alone. The first may be the value of a setting in front of it. -/
def pathsAmong (isValue : Bool) : List String → List String
  | [] => []
  | argument :: rest =>
      if isValue then pathsAmong false rest
      else
        match Look.of argument with
        | .path => argument :: pathsAmong false rest
        | .onlyPaths => rest
        | .letters _ => pathsAmong false rest
        | .option option given =>
            pathsAmong ((settings.lookup option).isSome && given.isNone) rest

/-- Reading arguments adds the paths among them, in the order in which they are given. -/
theorem adds_readAll (arguments : Arguments) (given : List String) :
    arguments.Adds (pathsAmong false given) (arguments.readAll given) := by
  fun_induction readAll arguments given with
  | case1 arguments => exact adds_nil rfl
  | case2 arguments path rest isPath request ended =>
      exact (arguments.adds_position path).ended ended _
  | case3 arguments path rest isPath next added ih =>
      simp only [pathsAmong, isPath, Bool.false_eq_true, ↓reduceIte]
      exact Adds.trans (added ▸ arguments.adds_position path) ih
  | case4 arguments argument rest dashes =>
      simp only [pathsAmong, dashes, Bool.false_eq_true, ↓reduceIte]
      exact arguments.adds_positionAll rest
  | case5 arguments argument rest letters areLetters request ended =>
      exact (arguments.adds_cluster letters).ended ended _
  | case6 arguments argument rest letters areLetters next added ih =>
      simp only [pathsAmong, areLetters, Bool.false_eq_true, ↓reduceIte]
      exact Adds.trans (added ▸ arguments.adds_cluster letters) ih
  | case7 arguments argument rest option setting value known request ended isOption =>
      exact (arguments.adds_set option value setting).ended ended _
  | case8 arguments argument rest option setting value known next added isOption ih =>
      simp only [pathsAmong, isOption, Option.isNone_some, Bool.and_false, Bool.false_eq_true,
        ↓reduceIte]
      exact Adds.trans (added ▸ arguments.adds_set option value setting) ih
  | case9 arguments argument option setting known isOption => exact adds_refused _
  | case10 arguments argument option setting known value rest isPath request ended isOption =>
      exact (arguments.adds_set option value setting).ended ended _
  | case11 arguments argument option setting known value rest isPath next added isOption ih =>
      simp only [pathsAmong, isOption, known, Option.isSome_some, Option.isNone_none,
        Bool.and_self, Bool.false_eq_true, ↓reduceIte]
      exact Adds.trans (added ▸ arguments.adds_set option value setting) ih
  | case12 arguments argument option setting known value rest notPath isOption =>
      exact adds_refused _
  | case13 arguments argument rest option given isOption noSetting noSwitch =>
      exact adds_refused _
  | case14 arguments argument rest option given isOption noSetting switch known present =>
      rw [if_pos present]
      exact adds_refused _
  | case15 arguments argument rest option given isOption noSetting switch known absent request
      ended =>
      rw [if_neg absent, ended]
      exact (arguments.adds_flip option switch).ended ended _
  | case16 arguments argument rest option given isOption noSetting switch known absent next added
      ih =>
      rw [if_neg absent, added]
      simp only [pathsAmong, isOption, noSetting, Option.isSome_none, Bool.false_and,
        Bool.false_eq_true, ↓reduceIte]
      exact Adds.trans (added ▸ arguments.adds_flip option switch) ih

example : pathsAmong false ["names.json", "-v", "--unit", "lines", "--", "--strict"] =
    ["names.json", "--strict"] := by decide

end Arguments

section Accepted

variable {given : List String} {arguments : Arguments}

/-- Accepted arguments have as positionals just their paths, and they say what to select. -/
theorem positionals_of_accepted (accepted : Request.ofArguments given = .accepted arguments) :
    arguments.positionals = Arguments.pathsAmong false given ∧
      (arguments.select = none → arguments.positionals ≠ []) := by
  have adds := Arguments.adds_readAll {} given
  unfold Request.ofArguments at accepted
  split at accepted
  · rename_i request ended
    exact absurd accepted (adds.ended ended [] arguments)
  · rename_i last read
    rw [read] at adds
    split at accepted
    · cases accepted
    · rename_i said
      cases accepted
      refine ⟨adds, fun unnamed empty => said ?_⟩
      rw [unnamed, empty]
      rfl

theorem files_of_names {names : List String}
    (accepted : Request.ofArguments given = .accepted arguments)
    (named : arguments.select = some names) :
    arguments.files = Arguments.pathsAmong false given := by
  simp only [Arguments.files, named, Option.isSome_some, ↓reduceIte]
  exact (positionals_of_accepted accepted).1

/-- Without, the first path names the file of the selection. -/
theorem files_of_declarations (accepted : Request.ofArguments given = .accepted arguments)
    (unnamed : arguments.select = none) :
    ∃ declarations, Arguments.pathsAmong false given = declarations :: arguments.files ∧
      ∀ files, arguments.selection files = Selection.load files declarations := by
  obtain ⟨paths, said⟩ := positionals_of_accepted accepted
  obtain ⟨declarations, others, split⟩ := List.exists_cons_of_ne_nil (said unnamed)
  refine ⟨declarations, ?_, fun files => ?_⟩
  · rw [← paths, split]
    simp only [Arguments.files, unnamed, split, Option.isSome_none, Bool.false_eq_true,
      ↓reduceIte, List.drop_succ_cons, List.drop_zero]
  · simp only [Arguments.selection, unnamed, split]

end Accepted

end SyntaxSpans.CommandLine
