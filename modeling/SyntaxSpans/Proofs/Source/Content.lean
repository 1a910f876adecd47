import SyntaxSpans.Proofs.Report.Comments
import SyntaxSpans.Proofs.Source.Loading
import SyntaxSpans.Proofs.Text.CharSpans
import SyntaxSpans.Proofs.Text.Decoding

set_option autoImplicit false

namespace SyntaxSpans

namespace Source

/-- The text of a file: what its bytes are read as, but for one mark in front. -/
def contentOf (bytes : Bytes) : List Char := Utf8.decode (bytes.drop (Utf8.markSize bytes))

theorem ofText_eq_ok_iff {parser : Parser} {options : Options} {path : String}
    {language : Language} {text : List Char} {source : Source} :
    (ofText parser options path language text).value = .ok source ↔
      ∃ parse, parser language (Utf8.dropMark text) = some parse ∧
        (options.strict && parse.hasErrors) = false ∧
        source = ⟨path, language, Utf8.dropMark text, parse⟩ := by
  unfold ofText
  dsimp only
  cases parser language (Utf8.dropMark text) with
  | none =>
      constructor
      · intro failed
        cases failed
      · rintro ⟨parse, absent, -⟩
        cases absent
  | some parse =>
      dsimp only
      by_cases refused : (options.strict && parse.hasErrors) = true
      · rw [if_pos refused]
        constructor
        · intro failed
          cases failed
        · rintro ⟨other, same, accepted, -⟩
          cases same
          rw [refused] at accepted
          cases accepted
      · rw [if_neg refused]
        constructor
        · intro loaded
          cases loaded
          exact ⟨parse, rfl, Bool.eq_false_iff.mpr refused, rfl⟩
        · rintro ⟨other, same, -, rfl⟩
          cases same
          rfl

section Loading

variable {world : World} {options : Options} {path : String} {language : Language} {bytes : Bytes}

/-- A readable file of a known language becomes a source as its text does. -/
theorem load_eq_ofText (known : options.languageFor path = .ok language)
    (readable : world.files path = .ok bytes) :
    (load world options path).value =
      (ofText world.parser options path language (Utf8.decode bytes)).value := by
  rw [load_value, known]
  unfold readText
  rw [readable]
  rfl

theorem load_eq_ok_iff (known : options.languageFor path = .ok language)
    (readable : world.files path = .ok bytes) (source : Source) :
    (load world options path).value = .ok source ↔
      ∃ parse, world.parser language (contentOf bytes) = some parse ∧
        (options.strict && parse.hasErrors) = false ∧
        source = ⟨path, language, contentOf bytes, parse⟩ := by
  rw [load_eq_ofText known readable, ofText_eq_ok_iff, Utf8.dropMark_decode]
  rfl

theorem extractFile_eq_ok_iff (selection : Selection)
    (known : options.languageFor path = .ok language) (readable : world.files path = .ok bytes)
    (records : List Record) :
    (extractFile world options selection path).value = .ok records ↔
      ∃ parse, world.parser language (contentOf bytes) = some parse ∧
        (options.strict && parse.hasErrors) = false ∧
        records = (Extractor.create language.registry selection (contentOf bytes)
          options.unit).extract parse.root := by
  rw [extractFile_value]
  constructor
  · intro extracted
    cases loaded : (load world options path).value with
    | error fault =>
        rw [loaded] at extracted
        cases extracted
    | ok source =>
        rw [loaded] at extracted
        cases extracted
        obtain ⟨parse, parsed, accepted, rfl⟩ := (load_eq_ok_iff known readable source).mp loaded
        exact ⟨parse, parsed, accepted, rfl⟩
  · rintro ⟨parse, parsed, accepted, rfl⟩
    have loaded := (load_eq_ok_iff known readable _).mpr ⟨parse, parsed, accepted, rfl⟩
    rw [loaded]
    rfl

end Loading

end Source

namespace Utf8

theorem markSize_cases (bytes : Bytes) :
    (markSize bytes = 3 ∧ bytes.take 3 = [0xEF, 0xBB, 0xBF]) ∨
      (markSize bytes = 0 ∧ bytes.take 3 ≠ [0xEF, 0xBB, 0xBF]) := by
  unfold markSize
  split
  · rename_i marked
    obtain ⟨rest, rfl⟩ := List.isPrefixOf_iff_prefix.mp marked
    exact .inl ⟨rfl, rfl⟩
  · rename_i plain
    refine .inr ⟨rfl, fun marked => plain (List.isPrefixOf_iff_prefix.mpr ?_)⟩
    exact ⟨bytes.drop 3, by rw [markBytes, ← marked, List.take_append_drop]⟩

/-- Nothing is lost in reading well-formed bytes after a mark. -/
theorem encode_contentOf (text : List Char) :
    encode (Source.contentOf (encode text)) = (encode text).drop (markSize (encode text)) := by
  unfold Source.contentOf markSize
  split
  · rename_i marked
    obtain ⟨rest, whole⟩ := List.isPrefixOf_iff_prefix.mp marked
    have read : text = '\uFEFF' :: decode rest := by
      rw [← decode_encode text, ← whole, markBytes_eq, decode_char]
    have written : encode (decode rest) = rest := by
      have bytes := congrArg encode read
      rw [encode_cons, ← markBytes_eq, ← whole] at bytes
      exact (List.append_cancel_left bytes).symm
    rw [← whole, List.drop_left, written]
  · rw [List.drop_zero, decode_encode]

end Utf8

namespace Source

/-- The bytes of a part of the content are the same bytes of the file, further on by the mark. -/
theorem extract_encode_contentOf (text : List Char) (start stop : Nat) :
    (Utf8.encode (contentOf (Utf8.encode text))).extract start stop =
      (Utf8.encode text).extract (Utf8.markSize (Utf8.encode text) + start)
        (Utf8.markSize (Utf8.encode text) + stop) := by
  rw [Utf8.encode_contentOf, List.extract_eq_take_drop, List.extract_eq_take_drop, List.drop_drop,
    Nat.add_sub_add_left]

/-- A record in bytes has the span of a node of the tree. -/
theorem exists_node_of_mem_extract {language : Language} {selection : Selection}
    {text : List Char} {root : Tree} {record : Record}
    (member : record ∈ (Extractor.create language.registry selection text .bytes).extract root) :
    ∃ node, (Node.root root).Holds node ∧ node.label.span = ⟨record.start, record.stop⟩ := by
  have listed : some record ∈
      ((Extractor.create language.registry selection text .bytes).extract root).map some :=
    List.mem_map_of_mem member
  rw [Extractor.map_some_extract_eq_nodes] at listed
  obtain ⟨node, among, reported⟩ := List.mem_map.mp listed
  rw [language.registry_eq_build] at among
  refine ⟨node, Extractor.holds_of_mem_reportedNodes among, ?_⟩
  obtain ⟨-, -, place⟩ := (Extractor.report?_eq_some_iff _ _ _).mp reported
  rw [Extractor.convert_create, Element.span_classify] at place
  obtain ⟨starts, stops⟩ := Prod.mk.inj place
  rw [starts, stops]

/-- The text that the spans of a file refer to. Of any bytes of a readable file in a known language,
well-formed or not, both ways of loading parse and measure the same text: what the bytes after a
mark in front are read as, or what all of them are read as without a mark in front. Only one mark
goes. Bytes that can be read without replacing anything are those of the text and of no other, and
then the bytes of a record are bytes of the file, further on by the mark. -/
theorem load_content (world : World) (options : Options) (selection : Selection) {path : String}
    {language : Language} {bytes : Bytes} (known : options.languageFor path = .ok language)
    (readable : world.files path = .ok bytes) :
    let skipped := Utf8.markSize bytes
    let content := Utf8.decode (bytes.drop skipped)
    ((skipped = 3 ∧ bytes.take 3 = [0xEF, 0xBB, 0xBF]) ∨
      (skipped = 0 ∧ bytes.take 3 ≠ [0xEF, 0xBB, 0xBF])) ∧
    content = Utf8.dropMark (Utf8.decode bytes) ∧
    (∀ source, (load world options path).value = .ok source ↔
      ∃ parse, world.parser language content = some parse ∧
        (options.strict && parse.hasErrors) = false ∧
        source = ⟨path, language, content, parse⟩) ∧
    (∀ records, (extractFile world options selection path).value = .ok records ↔
      ∃ parse, world.parser language content = some parse ∧
        (options.strict && parse.hasErrors) = false ∧
        records = (Extractor.create language.registry selection content options.unit).extract
          parse.root) ∧
    (∀ text, Utf8.decode? bytes = some text ↔ bytes = Utf8.encode text) ∧
    ∀ text, bytes = Utf8.encode text →
      content = Utf8.dropMark text ∧
      Utf8.encode content = bytes.drop skipped ∧
      ∀ root, ∀ record ∈
          (Extractor.create language.registry selection content .bytes).extract root,
        ∃ node, (Node.root root).Holds node ∧
          node.label.span = ⟨record.start, record.stop⟩ ∧
          (Utf8.encode content).extract record.start record.stop =
            bytes.extract (skipped + record.start) (skipped + record.stop) ∧
          ∀ piece, slice? content node.label.span = some piece →
            Utf8.encode piece =
              bytes.extract (skipped + record.start) (skipped + record.stop) := by
  refine ⟨Utf8.markSize_cases bytes, (Utf8.dropMark_decode bytes).symm,
    load_eq_ok_iff known readable, extractFile_eq_ok_iff selection known readable,
    Utf8.decode?_eq_some_iff bytes, ?_⟩
  rintro text rfl
  refine ⟨?_, Utf8.encode_contentOf text, fun root record member => ?_⟩
  · rw [← Utf8.dropMark_decode, Utf8.decode_encode]
  · obtain ⟨node, held, span⟩ := exists_node_of_mem_extract member
    have same := extract_encode_contentOf text record.start record.stop
    refine ⟨node, held, span, same, fun piece found => ?_⟩
    rw [encode_of_slice? found, span]
    exact same

def markedBytes : Bytes :=
  [0xEF, 0xBB, 0xBF, 0xEF, 0xBB, 0xBF, 0x2F, 0x2F, 0xC3, 0xA9]

/-- A mark, and bytes that no text has. -/
def brokenBytes : Bytes := [0xEF, 0xBB, 0xBF, 0xEF, 0xBB, 0x41]

/-- What a parser makes of a text that is all comment after its first three bytes. -/
def markedParse : Parse :=
  ⟨.node ⟨138, "program", ⟨0, 7⟩, true, false, none⟩
    [.node ⟨136, "line_comment", ⟨3, 7⟩, true, true, none⟩ []], false⟩

def markedWorld : World where
  files := fun path => .ok (if path = "A.java" then markedBytes else brokenBytes)
  parser := fun _ _ => some markedParse

theorem load_content_marked :
    ({ unit := .bytes } : Options).languageFor "A.java" = .ok .java ∧
    markedWorld.files "A.java" = .ok markedBytes ∧
    (load markedWorld { unit := .bytes } "A.java").value =
      .ok ⟨"A.java", .java, ['\uFEFF', '/', '/', 'é'], markedParse⟩ ∧
    (∃ node, (Node.root markedParse.root).Holds node ∧ node.label.span = ⟨3, 7⟩ ∧
      markedBytes.extract 6 10 = Utf8.encode ['/', '/', 'é']) ∧
    (load markedWorld {} "B.java").value =
      .ok ⟨"B.java", .java, [Utf8.replacement, 'A'], markedParse⟩ := by
  obtain ⟨-, -, loads, -, -, sound⟩ :=
    load_content markedWorld { unit := .bytes } (.ofNames ["comment"])
      (show ({ unit := .bytes } : Options).languageFor "A.java" = .ok .java from by decide)
      (show markedWorld.files "A.java" = .ok markedBytes from rfl)
  obtain ⟨-, -, broken, -⟩ :=
    load_content markedWorld {} (.ofNames ["comment"])
      (show ({} : Options).languageFor "B.java" = .ok .java from by decide)
      (show markedWorld.files "B.java" = .ok brokenBytes from rfl)
  obtain ⟨-, -, places⟩ :=
    sound ['\uFEFF', '\uFEFF', '/', '/', 'é'] (by decide)
  have reported : (⟨.comment, 3, 7⟩ : Record) ∈
      (Extractor.create Language.java.registry (.ofNames ["comment"]) (contentOf markedBytes)
        .bytes).extract markedParse.root := by
    rw [Extractor.extract_eq_append]
    decide
  obtain ⟨node, held, span, -, bytes⟩ := places markedParse.root _ reported
  have marked : Utf8.decode (markedBytes.drop (Utf8.markSize markedBytes)) =
      ['\uFEFF', '/', '/', 'é'] := by decide
  have replaced : Utf8.decode (brokenBytes.drop (Utf8.markSize brokenBytes)) =
      [Utf8.replacement, 'A'] := by decide
  have denoted := bytes ['/', '/', 'é'] (by rw [span]; decide)
  refine ⟨by decide, rfl, (loads _).mpr ⟨markedParse, rfl, rfl, ?_⟩,
    ⟨node, held, span, denoted.symm⟩, (broken _).mpr ⟨markedParse, rfl, rfl, ?_⟩⟩
  · rw [marked]
  · rw [replaced]

end Source

end SyntaxSpans
