import SyntaxSpans.Selection
import SyntaxSpans.Tree.Walk

set_option autoImplicit false

namespace SyntaxSpans

/-- One reported span, in the unit of its report. -/
structure Record where
  category : Category
  start : Nat
  stop : Nat
  deriving DecidableEq

def Record.line (record : Record) : String :=
  s!"{record.category.name} - [{record.start}-{record.stop}]"

/-- The elements of a walk that a registry knows as declarations. -/
def declarationElements (registry : Registry) (node : Node) : List Element :=
  (node.walk .structural).filter fun element => registry.isDeclaration element.kind

/-- The elements of a walk that a registry knows as comments. Constructs are walked only where some
of their kinds can serve as comments. -/
def commentElements (registry : Registry) (node : Node) : List Element :=
  (node.walk (if registry.hasStatementComments then .all else .trivia)).filter fun element =>
    if element.isTrivia then registry.isComment element.kind
    else registry.isStatementComment element.kind

structure Extractor where
  registry : Registry
  selection : Selection
  source : List Char
  unit : SpanUnit
  index : OffsetIndex

namespace Extractor

/-- A report in bytes needs no tables of the text. -/
def create (registry : Registry) (selection : Selection) (source : List Char) (unit : SpanUnit) :
    Extractor :=
  ⟨registry, selection, source, unit,
    match unit with
    | .bytes => .withoutTables source
    | .chars | .lines => .ofText source⟩

/-- The category of an element: what is extra is at most a comment, and the language's rule has the
last word on everything else. -/
def categorize (extractor : Extractor) (element : Element) : Option Category :=
  if element.isTrivia then
    if extractor.registry.isComment element.kind then some .comment else none
  else
    (extractor.registry.categoryOf? element.kind).bind
      (extractor.registry.refine element.place extractor.source)

/-- The record of an element, if it has a category and that is selected. -/
def report? (extractor : Extractor) (element : Element) : Option Record :=
  match extractor.categorize element with
  | none => none
  | some category =>
      if extractor.selection.contains category then
        let place := extractor.index.convert element.span extractor.unit
        some ⟨category, place.1, place.2⟩
      else none

/-- All records of a tree. -/
def extract (extractor : Extractor) (root : Tree) : List Record :=
  let node := Node.root root
  (declarationElements extractor.registry node).filterMap extractor.report? ++
    (commentElements extractor.registry node).filterMap extractor.report?

end Extractor

end SyntaxSpans
