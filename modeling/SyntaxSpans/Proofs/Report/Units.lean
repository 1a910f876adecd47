import SyntaxSpans.Proofs.Report.Coverage
import SyntaxSpans.Proofs.Report.Order

set_option autoImplicit false

namespace SyntaxSpans

/-- A record whose numbers are bytes, in another unit. -/
def Record.inUnit (index : OffsetIndex) (unit : SpanUnit) (record : Record) : Record :=
  let place := index.convert record.span unit
  ⟨record.category, place.1, place.2⟩

namespace Extractor

variable {registry : Registry} {selection : Selection} {source : List Char}

/-- The record of an element has its bytes, converted with all tables of the text. -/
theorem report?_inUnit (unit : SpanUnit) (element : Element) :
    (create registry selection source unit).report? element =
      ((create registry selection source .bytes).report? element).map
        (Record.inUnit (.ofText source) unit) := by
  have category : (create registry selection source unit).categorize element =
      (create registry selection source .bytes).categorize element := rfl
  rw [report?_eq_map, report?_eq_map, category, Option.map_map]
  congr 1
  funext found
  dsimp only [Function.comp_apply]
  rw [convert_create]
  rfl

theorem report?_of_bytes (index : OffsetIndex) (element : Element) :
    (⟨registry, selection, source, .bytes, index⟩ : Extractor).report? element =
      (create registry selection source .bytes).report? element := by
  rw [report?_eq_map, report?_eq_map]
  rfl

/-- A report in any unit has the records of the report in bytes, as many and in the same order, each
with its category and with its bytes converted by the index of the text. Whatever index a report in
bytes is made with, the one without tables or another, its records are the same. -/
theorem extract_inUnit (registry : Registry) (selection : Selection) (source : List Char)
    (unit : SpanUnit) (root : Tree) :
    (create registry selection source unit).extract root =
      ((create registry selection source .bytes).extract root).map
        (Record.inUnit (.ofText source) unit) ∧
    ∀ index : OffsetIndex,
      (⟨registry, selection, source, .bytes, index⟩ : Extractor).extract root =
        (create registry selection source .bytes).extract root := by
  constructor
  · rw [extract_eq_filterMap, extract_eq_filterMap, List.map_filterMap]
    apply List.filterMap_congr
    intro element _
    exact report?_inUnit unit element
  · intro index
    rw [extract_eq_filterMap, extract_eq_filterMap]
    apply List.filterMap_congr
    intro element _
    exact report?_of_bytes index element

end Extractor

end SyntaxSpans
