import SyntaxSpans.Proofs.Exchange.OptionsMembers
import SyntaxSpans.Proofs.Exchange.RecordMembers

set_option autoImplicit false

namespace SyntaxSpans

open Json (Member timesGiven HoldsOnly)

/-- Records and options are written as objects of their members, and are read from any object that
holds those: a record if each of its members is there once, options in the members that are there, with
the defaults for the others. An object that lacks a member of a record, or has one of either twice, is
an error, whatever the values are. -/
theorem read_in_any_layout :
    (∀ record : Record, record.start < Nat.pow 2 64 ∧ record.stop < Nat.pow 2 64 →
      Json.SpellsObject record.json.toList record.members ∧
        Record.ofJson record.json = .ok record) ∧
    (∀ options : Options, Json.SpellsObject options.json.toList options.members ∧
      Options.ofJson options.json = .ok options) ∧
    ∀ (text : String) (given : List Member), Json.SpellsObject text.toList given →
      (∀ record : Record, record.start < Nat.pow 2 64 ∧ record.stop < Nat.pow 2 64 →
        HoldsOnly Record.keys record.members given →
        (∀ key ∈ Record.keys, timesGiven key given = 1) → Record.ofJson text = .ok record) ∧
      ((∃ key ∈ Record.keys, timesGiven key given ≠ 1) →
        ∃ failure, Record.ofJson text = .error failure) ∧
      (∀ options : Options, HoldsOnly Options.keys options.members given →
        (∀ key ∈ Options.keys, timesGiven key given ≤ 1) →
        Options.ofJson text = .ok (options.keeping (given.map (·.key)))) ∧
      ((∃ key ∈ Options.keys, 1 < timesGiven key given) →
        ∃ failure, Options.ofJson text = .error failure) := by
  refine ⟨fun record fits => ⟨record.spells_json, ?_⟩, fun options => ⟨options.spells_json, ?_⟩,
    fun text given written => ⟨fun record fits holds once => ?_, ?_, fun options holds once => ?_, ?_⟩⟩
  · exact Record.ofJson_of_members fits record.spells_json (fun _ among _ => among)
      record.timesGiven_members
  · have read := Options.ofJson_of_members options.spells_json (fun _ among _ => among)
      options.timesGiven_members
    rwa [show options.members.map (·.key) = Options.keys from rfl, options.keeping_keys] at read
  · exact Record.ofJson_of_members fits written holds once
  · rintro ⟨key, among, other⟩
    cases read : Record.ofJson text with
    | error failure => exact ⟨failure, rfl⟩
    | ok record => exact absurd (Record.timesGiven_eq_one written read among) other
  · exact Options.ofJson_of_members written holds once
  · rintro ⟨key, among, more⟩
    cases read : Options.ofJson text with
    | error failure => exact ⟨failure, rfl⟩
    | ok options => exact absurd (Options.timesGiven_le_one written read among) (Nat.not_le_of_lt more)

section Mixed

/-- A record out of order, an option, and a note that holds what looks like a part of a record. -/
def mixedText : String :=
  "\x7b\"end\":9,\n\"note\":[\x7b\"start\":0\x7d],\"strict\":true,\"st\\u0061rt\" : 4," ++
    "\"category\":\"class\"\x7d"

def mixedMembers : List Member :=
  [⟨"end", ['9']⟩, ⟨"note", "[\x7b\"start\":0\x7d]".toList⟩, ⟨"strict", "true".toList⟩,
    ⟨"start", ['4']⟩, ⟨"category", Json.quotedName "class"⟩]

theorem writesValue_note : Json.WritesValue "[\x7b\"start\":0\x7d]".toList := by
  have key : Json.WritesLabel .object "\"start\":".toList :=
    @Json.WritesLabel.key [] "start".toList [] (by decide) (Json.Spells.ofPlain (by decide)).writes
      (by decide)
  have member : Json.WritesItems .object "\"start\":0".toList :=
    @Json.WritesItems.last .object _ [] ['0'] [] key (by decide) (Json.writesValue_toDigits 0) (by decide)
  exact .filled .list (@Json.WritesItems.last .list [] [] _ [] .place (by decide)
    (.filled .object member) (by decide))

theorem spells_mixedText : Json.SpellsObject mixedText.toList mixedMembers := by
  have letter : Json.SpellsUnit ['0', '0', '6', '1'] 0x61 := by
    refine @Json.SpellsUnit.digits '0' '0' '6' '1' 0 0 6 1 0x61 ?_ ?_ ?_ ?_ rfl
    all_goals exact ⟨by decide, .inl (by decide)⟩
  have start : Json.Spells "st\\u0061rt".toList "start".toList :=
    .plain (by decide) (by decide) (by decide) (.plain (by decide) (by decide) (by decide)
      (.single rfl letter (.ofPlain (by decide))))
  have first := Json.spells_compact (show Member.IsPlain ⟨"end", ['9']⟩ from
    ⟨by decide, Json.writesValue_toDigits 9⟩)
  have second := @Json.SpellsMember.parts ['\n'] "note".toList [] [] [] ⟨"note", _⟩ (by decide)
    (.ofPlain (by decide)) (by decide) (by decide) writesValue_note (by decide)
  have third := Json.spells_compact (show Member.IsPlain ⟨"strict", "true".toList⟩ from
    ⟨by decide, Json.writesValue_toString true⟩)
  have fourth := @Json.SpellsMember.parts [] _ [' '] [' '] [] ⟨"start", ['4']⟩ (by decide) start
    (by decide) (by decide) (Json.writesValue_toDigits 4) (by decide)
  have fifth := Json.spells_compact (show Member.IsPlain ⟨"category", Json.quotedName "class"⟩ from
    ⟨by decide, Json.writesValue_quotedName (by decide)⟩)
  exact @Json.SpellsObject.filled [] _ [] _ (by decide)
    (.more first (.more second (.more third (.more fourth (.last fifth))))) (by decide)

/-- An option given twice. -/
def twiceText : String := "\x7b\"strict\":true,\"strict\":true\x7d"

def twiceMembers : List Member := [⟨"strict", "true".toList⟩, ⟨"strict", "true".toList⟩]

theorem spells_twiceText : Json.SpellsObject twiceText.toList twiceMembers := by
  have plain : ∀ key ∈ twiceMembers.map (·.key), key.toList.all Json.isPlain = true := by decide
  refine @Json.spells_compactObject twiceMembers ?_ (List.cons_ne_nil _ _)
  intro member among
  refine ⟨plain member.key (List.mem_map_of_mem among), ?_⟩
  simp only [twiceMembers, List.mem_cons, List.not_mem_nil, or_false, or_self] at among
  rw [among]
  exact Json.writesValue_toString true

/-- The mixed text is a record, and as options it is strict with the defaults for the rest; where an
option stands twice neither can be read. -/
theorem read_in_any_layout_mixed :
    Record.ofJson mixedText = .ok ⟨.classDef, 4, 9⟩ ∧
    Options.ofJson mixedText = .ok { strict := true } ∧
    (∃ failure, Record.ofJson twiceText = .error failure) ∧
    ∃ failure, Options.ofJson twiceText = .error failure := by
  obtain ⟨-, -, read⟩ := read_in_any_layout
  obtain ⟨asRecord, -, asOptions, -⟩ := read mixedText mixedMembers spells_mixedText
  obtain ⟨-, noRecord, -, noOptions⟩ := read twiceText twiceMembers spells_twiceText
  exact ⟨asRecord ⟨.classDef, 4, 9⟩ (by decide) (by decide) (by decide),
    asOptions { strict := true } (by decide) (by decide),
    noRecord ⟨"start", by decide, by decide⟩, noOptions ⟨"strict", by decide, by decide⟩⟩

end Mixed

end SyntaxSpans
