import SyntaxSpans.Source

set_option autoImplicit false

namespace SyntaxSpans

namespace Source

theorem path_of_ofText {parser : Parser} {options : Options} {path : String} {language : Language}
    {text : List Char} {source : Source}
    (parsed : (ofText parser options path language text).value = .ok source) :
    source.path = path := by
  unfold ofText at parsed
  dsimp only at parsed
  split at parsed
  · cases parsed
  · split at parsed
    · cases parsed
    · cases parsed
      rfl

theorem isPerFile_of_ofText {parser : Parser} {options : Options} {path : String}
    {language : Language} {text : List Char} {fault : Fault}
    (failed : (ofText parser options path language text).value = .error fault) :
    fault.isPerFile = true := by
  unfold ofText at failed
  dsimp only at failed
  split at failed
  · cases failed
    rfl
  · split at failed
    · cases failed
      rfl
    · cases failed

theorem fault_of_readText {files : Snapshot} {path : String} {fault : Fault}
    (failed : (readText files path).value = .error fault) :
    ∃ cause, fault = .unreadable path cause := by
  unfold readText at failed
  split at failed
  · rename_i cause absent
    cases failed
    exact ⟨cause, rfl⟩
  · cases failed

theorem fault_of_languageFor {options : Options} {path : String} {fault : Fault}
    (failed : options.languageFor path = .error fault) : fault = .unknownLanguage path := by
  unfold Options.languageFor at failed
  split at failed
  · cases failed
  · split at failed
    · cases failed
    · cases failed
      rfl

theorem isPerFile_of_readText {files : Snapshot} {path : String} {fault : Fault}
    (failed : (readText files path).value = .error fault) : fault.isPerFile = true := by
  obtain ⟨cause, rfl⟩ := fault_of_readText failed
  rfl

theorem isPerFile_of_languageFor {options : Options} {path : String} {fault : Fault}
    (failed : options.languageFor path = .error fault) : fault.isPerFile = true := by
  rw [fault_of_languageFor failed]
  rfl

/-- The steps of loading, without what is noted on the way. -/
theorem load_value (world : World) (options : Options) (path : String) :
    (load world options path).value =
      options.languageFor path >>= fun language =>
        (readText world.files path).value >>= fun text =>
          (ofText world.parser options path language text).value := by
  unfold load
  simp only [Logged.value_andThen, Logged.quiet]

theorem path_of_load {world : World} {options : Options} {path : String} {source : Source}
    (loaded : (load world options path).value = .ok source) : source.path = path := by
  rw [load_value] at loaded
  cases found : options.languageFor path with
  | error fault => simp [found, bind, Except.bind] at loaded
  | ok language =>
      cases read : (readText world.files path).value with
      | error fault => simp [found, read, bind, Except.bind] at loaded
      | ok text =>
          simp only [found, read, bind, Except.bind] at loaded
          exact path_of_ofText loaded

/-- Whatever goes wrong in loading concerns that file alone. -/
theorem isPerFile_of_load {world : World} {options : Options} {path : String} {fault : Fault}
    (failed : (load world options path).value = .error fault) : fault.isPerFile = true := by
  rw [load_value] at failed
  cases found : options.languageFor path with
  | error reason =>
      simp only [found, bind, Except.bind, Except.error.injEq] at failed
      exact failed ▸ isPerFile_of_languageFor found
  | ok language =>
      cases read : (readText world.files path).value with
      | error reason =>
          simp only [found, read, bind, Except.bind, Except.error.injEq] at failed
          exact failed ▸ isPerFile_of_readText read
      | ok text =>
          simp only [found, read, bind, Except.bind] at failed
          exact isPerFile_of_ofText failed

/-- Extracting a file is loading it and taking its records: the two go through the same steps and
fail alike. -/
theorem extractFile_value (world : World) (options : Options) (selection : Selection)
    (path : String) :
    (extractFile world options selection path).value =
      (load world options path).value.map fun source => source.records selection options.unit := by
  rw [load_value]
  unfold extractFile extractText
  simp only [Logged.value_andThen, Logged.quiet]
  cases options.languageFor path with
  | error fault => rfl
  | ok language =>
      cases (readText world.files path).value with
      | error fault => rfl
      | ok text =>
          simp only [bind, Except.bind]
          cases (ofText world.parser options path language text).value <;> rfl

end Source

end SyntaxSpans
