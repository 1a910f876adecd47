import Mathlib.Data.List.Basic
import SyntaxSpans.Proofs.Report.Elements
import SyntaxSpans.Source

set_option autoImplicit false

namespace SyntaxSpans

def Selection.every : Selection := .ofNames (Category.all.map Category.name)

theorem Selection.contains_every (category : Category) : every.contains category = true := by
  rw [every, contains_ofNames, List.contains_iff_mem]
  exact List.mem_map_of_mem category.mem_all

def Record.isAmong (names : List String) (record : Record) : Bool :=
  names.contains record.category.name

theorem Record.isAmong_congr {names others : List String}
    (same : ∀ category : Category, category.name ∈ names ↔ category.name ∈ others) :
    isAmong names = isAmong others := by
  funext record
  rw [Bool.eq_iff_iff, isAmong, isAmong, List.contains_iff_mem, List.contains_iff_mem]
  exact same record.category

namespace Extractor

variable {registry : Registry} {source : List Char} {unit : SpanUnit}

theorem report?_ofNames (names : List String) (element : Element) :
    (create registry (.ofNames names) source unit).report? element =
      ((create registry .every source unit).report? element).filter (Record.isAmong names) := by
  have category : (create registry (.ofNames names) source unit).categorize element =
      (create registry .every source unit).categorize element := rfl
  unfold report?
  rw [category]
  cases (create registry .every source unit).categorize element with
  | none => rfl
  | some category =>
      have all : (create registry .every source unit).selection.contains category = true :=
        Selection.contains_every category
      have some : (create registry (.ofNames names) source unit).selection.contains category =
          names.contains category.name := Selection.contains_ofNames names category
      dsimp only
      rw [all, some, if_pos rfl, Option.filter_some]
      rfl

/-- A report of some names is the report of all of them, filtered. -/
theorem extract_ofNames (names : List String) (root : Tree) :
    (create registry (.ofNames names) source unit).extract root =
      ((create registry .every source unit).extract root).filter (Record.isAmong names) := by
  rw [extract_eq_filterMap, extract_eq_filterMap, List.filter_filterMap]
  apply List.filterMap_congr
  intro element _
  exact report?_ofNames names element

end Extractor

theorem Source.records_ofNames (source : Source) (names : List String) (unit : SpanUnit) :
    source.records (.ofNames names) unit =
      (source.records .every unit).filter (Record.isAmong names) :=
  Extractor.extract_ofNames names source.parse.root

end SyntaxSpans
