import SyntaxSpans.Exchange.Record
import SyntaxSpans.Proofs.Json.Members

set_option autoImplicit false

namespace SyntaxSpans.Record

open Json (Member Reader timesGiven HoldsOnly)

def keys : List String := ["category", "start", "end"]

def members (record : Record) : List Member :=
  [⟨"category", Json.quotedName record.category.name⟩, ⟨"start", Nat.toDigits 10 record.start⟩,
    ⟨"end", Nat.toDigits 10 record.stop⟩]

/-- What is known of a record by the fields under some keys. -/
def known (record : Record) (keys : List String) : Partial where
  category := if "category" ∈ keys then some record.category else none
  start := if "start" ∈ keys then some record.start else none
  stop := if "end" ∈ keys then some record.stop else none

def Partial.Has (known : Partial) (key : String) : Prop :=
  (key = "category" ∧ known.category ≠ none) ∨ (key = "start" ∧ known.start ≠ none) ∨
    (key = "end" ∧ known.stop ≠ none)

variable {record : Record} {text : String} {given : List Member}

theorem isPlain_name (category : Category) :
    category.name.toList.all Json.isPlain = true := by
  cases category <;> rfl

theorem lookup_categories (category : Category) :
    categories.lookup category.name = some category := by
  cases category <;> rfl

theorem keys_eq : shape.fields.map (·.name) = keys := rfl

/-- A record is known by its three fields. -/
theorem knows (fits : record.start < Nat.pow 2 64 ∧ record.stop < Nat.pow 2 64) :
    shape.Knows record.members record.known where
  start := rfl
  field := by
    intro member among
    simp only [members, List.mem_cons, List.not_mem_nil, or_false] at among
    rcases among with rfl | rfl | rfl
    · have name := Json.choice_reads_quotedName (isPlain_name record.category)
        (lookup_categories record.category)
      refine ⟨_, _, rfl, Json.Field.reads_of_reader name, fun passed => ?_⟩
      simp [known]
    · have start := Reader.natural_reads fits.1
      refine ⟨_, _, rfl, Json.Field.reads_of_reader start, fun passed => ?_⟩
      simp [known]
    · have stop := Reader.natural_reads fits.2
      refine ⟨_, _, rfl, Json.Field.reads_of_reader stop, fun passed => ?_⟩
      simp [known]
  other := by
    intro key unknown passed
    have others := Json.not_mem_names unknown
    simp only [keys_eq, keys, List.mem_cons, List.not_mem_nil, or_false, not_or] at others
    obtain ⟨notCategory, notStart, notStop⟩ := others
    simp [known, Ne.symm notCategory, Ne.symm notStart, Ne.symm notStop]

theorem skipsAlike : ∀ field ∈ shape.fields, field.reader.SkipsAlike := by
  intro field listed
  simp only [shape, List.mem_cons, List.not_mem_nil, or_false] at listed
  rcases listed with rfl | rfl | rfl
  · exact Json.Field.skipsAlike_of_reader (Reader.choice_skipsAlike categories)
  · exact Json.Field.skipsAlike_of_reader Reader.natural_skipsAlike
  · exact Json.Field.skipsAlike_of_reader Reader.natural_skipsAlike

theorem complete_known {passed : List String} (all : ∀ key ∈ keys, key ∈ passed) :
    (record.known passed).complete = .ok record := by
  simp only [keys, List.forall_mem_cons] at all
  obtain ⟨category, start, stop, -⟩ := all
  simp only [known, category, start, stop, ↓reduceIte, Partial.complete]

/-- A field changes what is known under its own key alone. -/
theorem has_of_gives {field : Json.Field Partial} {value : List Char} {set : Partial → Partial}
    {key : String} (listed : field ∈ shape.fields) (different : field.name ≠ key)
    (gives : field.Gives value set) (state : Partial) (has : (set state).Has key) :
    state.Has key := by
  simp only [shape, List.mem_cons, List.not_mem_nil, or_false] at listed
  rcases listed with rfl | rfl | rfl
  all_goals
    obtain ⟨value, rfl⟩ := Json.Field.exists_of_gives gives
    simpa [Partial.Has, Ne.symm different] using has

theorem has_of_complete {state : Partial} {key : String} (among : key ∈ keys)
    (complete : state.complete = .ok record) : state.Has key := by
  obtain ⟨category, start, stop⟩ := state
  cases category with
  | none => cases complete
  | some category =>
      cases start with
      | none => cases complete
      | some start =>
          cases stop with
          | none => cases complete
          | some stop => simpa [keys, Partial.Has] using among

/-- An object that is read as a record has each of its fields once. -/
theorem timesGiven_eq_one {key : String} (written : Json.SpellsObject text.toList given)
    (read : ofJson text = .ok record) (among : key ∈ keys) : timesGiven key given = 1 := by
  obtain ⟨last, gathers, complete⟩ := written.gathered skipsAlike read
  have atMost := (gathers.timesGiven_le (keys_eq ▸ among)).2
  have atLeast : timesGiven key given ≠ 0 := by
    intro none
    have nothing : ¬shape.start.Has key := by
      simp [shape, Partial.Has]
    have lacking : ¬last.Has key := by
      -- Every member that is there belongs to another field, and that leaves this one as it was.
      refine gathers.keeps (fun state => ¬state.Has key) ?_ nothing
      intro field listed some value set gives state lacks has
      have different : field.name ≠ key := by
        rintro rfl
        exact Nat.ne_of_gt some none
      exact lacks (has_of_gives listed different gives state has)
    exact lacking (has_of_complete among complete)
  omega

/-- An object with each field of a record once is read as the record. -/
theorem ofJson_of_members (fits : record.start < Nat.pow 2 64 ∧ record.stop < Nat.pow 2 64)
    (written : Json.SpellsObject text.toList given) (holds : HoldsOnly keys record.members given)
    (once : ∀ key ∈ keys, timesGiven key given = 1) : ofJson text = .ok record := by
  refine written.read_knowing (knows fits) holds (fun key among => Nat.le_of_eq (once key among))
    (complete_known fun key among => ?_)
  have counted : (given.map (·.key)).count key = 1 := once key among
  exact List.mem_reverse.mpr (List.count_pos_iff.mp (counted ▸ Nat.one_pos))

theorem timesGiven_members (record : Record) :
    ∀ key ∈ keys, timesGiven key record.members = 1 := by
  show ∀ key ∈ keys, keys.count key = 1
  decide

theorem toList_json (record : Record) : record.json.toList = Json.compactObject record.members := by
  have written : ∀ name start stop : String,
      ("\x7b\"category\":\"" ++ name ++ "\",\"start\":" ++ start ++ ",\"end\":" ++ stop ++
        "\x7d").toList =
      Json.compactObject [⟨"category", Json.quotedName name⟩, ⟨"start", start.toList⟩,
        ⟨"end", stop.toList⟩] := by
    intro name start stop
    simp [Json.compactObject, Member.compact, Json.quotedName, List.intercalate]
  have object := written record.category.name (toString record.start) (toString record.stop)
  rw [Json.toList_toString, Json.toList_toString] at object
  exact object

theorem spells_json (record : Record) : Json.SpellsObject record.json.toList record.members := by
  rw [toList_json]
  refine Json.spells_compactObject ?_ (List.cons_ne_nil _ _)
  have plain : ∀ key ∈ keys, key.toList.all Json.isPlain = true := by decide
  intro member among
  simp only [members, List.mem_cons, List.not_mem_nil, or_false] at among
  rcases among with rfl | rfl | rfl
  · exact ⟨plain "category" (by decide), Json.writesValue_quotedName (isPlain_name _)⟩
  · exact ⟨plain "start" (by decide), Json.writesValue_toDigits _⟩
  · exact ⟨plain "end" (by decide), Json.writesValue_toDigits _⟩

end SyntaxSpans.Record
