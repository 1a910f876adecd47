import SyntaxSpans.Exchange.Options
import SyntaxSpans.Proofs.Json.Members

set_option autoImplicit false

namespace SyntaxSpans.Options

open Json (Member Reader timesGiven HoldsOnly)

def keys : List String := ["unit", "on_error", "parallel", "strict", "language"]

/-- What is written for a language that may be left open. -/
def languageText : Option Language → List Char
  | none => ['n', 'u', 'l', 'l']
  | some language => Json.quotedName language.name

def members (options : Options) : List Member :=
  [⟨"unit", Json.quotedName options.unit.name⟩, ⟨"on_error", Json.quotedName options.onError.name⟩,
    ⟨"parallel", (toString options.parallel).toList⟩,
    ⟨"strict", (toString options.strict).toList⟩, ⟨"language", languageText options.language⟩]

/-- The defaults with the fields under some keys taken from the options. -/
def keeping (options : Options) (keys : List String) : Options where
  unit := if "unit" ∈ keys then options.unit else default.unit
  onError := if "on_error" ∈ keys then options.onError else default.onError
  parallel := if "parallel" ∈ keys then options.parallel else default.parallel
  strict := if "strict" ∈ keys then options.strict else default.strict
  language := if "language" ∈ keys then options.language else default.language

variable {options : Options} {text : String} {given : List Member}

theorem isPlain_unit (unit : SpanUnit) : unit.name.toList.all Json.isPlain = true := by
  cases unit <;> rfl

theorem isPlain_policy (policy : FailurePolicy) : policy.name.toList.all Json.isPlain = true := by
  cases policy <;> rfl

theorem isPlain_language (language : Language) :
    language.name.toList.all Json.isPlain = true := by
  cases language <;> rfl

theorem lookup_units (unit : SpanUnit) : units.lookup unit.name = some unit := by
  cases unit <;> rfl

theorem lookup_policies (policy : FailurePolicy) : policies.lookup policy.name = some policy := by
  cases policy <;> rfl

theorem lookup_languages (language : Language) :
    languages.lookup language.name = some language := by
  cases language <;> rfl

theorem languageText_reads (language : Option Language) :
    (Reader.choice languages).optional.Reads (languageText language) language := by
  cases language with
  | none => exact Reader.optional_reads_none _
  | some language =>
      have name := Json.choice_reads_quotedName (isPlain_language language) (lookup_languages language)
      exact Reader.Reads.optional name (by decide) (by decide)

theorem writesValue_languageText (language : Option Language) :
    Json.WritesValue (languageText language) := by
  cases language with
  | none => exact .scalar (.word (by decide))
  | some language => exact Json.writesValue_quotedName (isPlain_language language)

theorem keys_eq : shape.fields.map (·.name) = keys := rfl

theorem knows (options : Options) : shape.Knows options.members options.keeping where
  start := rfl
  field := by
    intro member among
    simp only [members, List.mem_cons, List.not_mem_nil, or_false] at among
    rcases among with rfl | rfl | rfl | rfl | rfl
    · have unit := Json.choice_reads_quotedName (isPlain_unit options.unit) (lookup_units options.unit)
      refine ⟨_, _, rfl, Json.Field.reads_of_reader unit, fun passed => ?_⟩
      simp [keeping]
    · have policy := Json.choice_reads_quotedName (isPlain_policy options.onError)
        (lookup_policies options.onError)
      refine ⟨_, _, rfl, Json.Field.reads_of_reader policy, fun passed => ?_⟩
      simp [keeping]
    · have parallel := Reader.boolean_reads options.parallel
      refine ⟨_, _, rfl, Json.Field.reads_of_reader parallel, fun passed => ?_⟩
      simp [keeping]
    · have strict := Reader.boolean_reads options.strict
      refine ⟨_, _, rfl, Json.Field.reads_of_reader strict, fun passed => ?_⟩
      simp [keeping]
    · have language := languageText_reads options.language
      refine ⟨_, _, rfl, Json.Field.reads_of_reader language, fun passed => ?_⟩
      simp [keeping]
  other := by
    intro key unknown passed
    have others := Json.not_mem_names unknown
    simp only [keys_eq, keys, List.mem_cons, List.not_mem_nil, or_false, not_or] at others
    obtain ⟨notUnit, notPolicy, notParallel, notStrict, notLanguage⟩ := others
    simp [keeping, Ne.symm notUnit, Ne.symm notPolicy, Ne.symm notParallel, Ne.symm notStrict,
      Ne.symm notLanguage]

theorem skipsAlike : ∀ field ∈ shape.fields, field.reader.SkipsAlike := by
  intro field listed
  simp only [shape, List.mem_cons, List.not_mem_nil, or_false] at listed
  rcases listed with rfl | rfl | rfl | rfl | rfl
  · exact Json.Field.skipsAlike_of_reader (Reader.choice_skipsAlike units)
  · exact Json.Field.skipsAlike_of_reader (Reader.choice_skipsAlike policies)
  · exact Json.Field.skipsAlike_of_reader Reader.boolean_skipsAlike
  · exact Json.Field.skipsAlike_of_reader Reader.boolean_skipsAlike
  · exact Json.Field.skipsAlike_of_reader
      (Reader.optional_skipsAlike (Reader.choice_skipsAlike languages))

theorem keeping_reverse (options : Options) (passed : List String) :
    options.keeping passed.reverse = options.keeping passed := by
  simp only [keeping, List.mem_reverse]

theorem keeping_keys (options : Options) : options.keeping keys = options := by
  simp [keeping, keys]

/-- An object that is read as options has no field of theirs twice. -/
theorem timesGiven_le_one {key : String} (written : Json.SpellsObject text.toList given)
    (read : ofJson text = .ok options) (among : key ∈ keys) : timesGiven key given ≤ 1 := by
  obtain ⟨last, gathers, -⟩ := written.gathered skipsAlike read
  exact (gathers.timesGiven_le (keys_eq ▸ among)).2

/-- An object with some fields of options is read as the options in those fields. -/
theorem ofJson_of_members (written : Json.SpellsObject text.toList given)
    (holds : HoldsOnly keys options.members given) (once : ∀ key ∈ keys, timesGiven key given ≤ 1) :
    ofJson text = .ok (options.keeping (given.map (·.key))) := by
  rw [← keeping_reverse]
  exact written.read_knowing options.knows holds once rfl

theorem timesGiven_members (options : Options) :
    ∀ key ∈ keys, timesGiven key options.members ≤ 1 := by
  show ∀ key ∈ keys, keys.count key ≤ 1
  decide

theorem toList_json (options : Options) :
    options.json.toList = Json.compactObject options.members := by
  have written : ∀ unit policy parallel strict language : String,
      ("\x7b\"unit\":" ++ ("\"" ++ unit ++ "\"") ++ ",\"on_error\":" ++ ("\"" ++ policy ++ "\"") ++
        ",\"parallel\":" ++ parallel ++ ",\"strict\":" ++ strict ++ ",\"language\":" ++ language ++
        "\x7d").toList =
      Json.compactObject [⟨"unit", Json.quotedName unit⟩, ⟨"on_error", Json.quotedName policy⟩,
        ⟨"parallel", parallel.toList⟩, ⟨"strict", strict.toList⟩,
        ⟨"language", language.toList⟩] := by
    intro unit policy parallel strict language
    simp [Json.compactObject, Member.compact, Json.quotedName, List.intercalate]
  obtain ⟨unit, policy, parallel, strict, language⟩ := options
  cases language with
  | none =>
      exact written unit.name policy.name (toString parallel) (toString strict) "null"
  | some language =>
      have name : ("\"" ++ language.name ++ "\"").toList = Json.quotedName language.name := by
        simp [Json.quotedName]
      rw [members, languageText, ← name]
      exact written unit.name policy.name (toString parallel) (toString strict) _

theorem spells_json (options : Options) :
    Json.SpellsObject options.json.toList options.members := by
  rw [toList_json]
  refine Json.spells_compactObject ?_ (List.cons_ne_nil _ _)
  have plain : ∀ key ∈ keys, key.toList.all Json.isPlain = true := by decide
  intro member among
  simp only [members, List.mem_cons, List.not_mem_nil, or_false] at among
  rcases among with rfl | rfl | rfl | rfl | rfl
  · exact ⟨plain "unit" (by decide), Json.writesValue_quotedName (isPlain_unit _)⟩
  · exact ⟨plain "on_error" (by decide), Json.writesValue_quotedName (isPlain_policy _)⟩
  · exact ⟨plain "parallel" (by decide), Json.writesValue_toString _⟩
  · exact ⟨plain "strict" (by decide), Json.writesValue_toString _⟩
  · exact ⟨plain "language" (by decide), writesValue_languageText _⟩

end SyntaxSpans.Options
