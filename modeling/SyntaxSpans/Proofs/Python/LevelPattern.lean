import Mathlib.Computability.RegularExpressions
import SyntaxSpans.Proofs.Python.Docstrings

set_option autoImplicit false

namespace SyntaxSpans.Python

def decoration : RegularExpression String := 1 + .char "decorated_definition"

def classWay : RegularExpression String :=
  decoration * (.char "block" * .char "class_definition")

def moduleWay : RegularExpression String :=
  decoration * (.char "module" + .char "block" * .char "module")

/-- The way out from a place at declaration level: out of as many classes as there are around it, and
then to the module. -/
def levelPattern : RegularExpression String := classWay.star * moduleWay

section Ways

variable {kinds marks way outer : List String} {kind : String}

theorem mem_char_iff : way ∈ (RegularExpression.char kind).matches' ↔ way = [kind] := by
  rw [RegularExpression.matches'_char]
  rfl

theorem mem_decoration_iff :
    marks ∈ decoration.matches' ↔ marks = [] ∨ marks = ["decorated_definition"] := by
  rw [decoration, RegularExpression.matches'_add, RegularExpression.matches'_epsilon,
    Language.mem_add, Language.mem_one, mem_char_iff]

theorem mem_classWay_iff :
    way ∈ classWay.matches' ↔
      ∃ marks ∈ decoration.matches', marks ++ ["block", "class_definition"] = way := by
  simp only [classWay, RegularExpression.matches'_mul, Language.mem_mul, mem_char_iff,
    exists_eq_left, List.singleton_append, exists_eq_left']

theorem mem_moduleWay_iff :
    way ∈ moduleWay.matches' ↔
      ∃ marks ∈ decoration.matches',
        marks ++ ["module"] = way ∨ marks ++ ["block", "module"] = way := by
  simp only [moduleWay, RegularExpression.matches'_mul, RegularExpression.matches'_add,
    Language.mem_mul, Language.mem_add, mem_char_iff, exists_eq_left, List.singleton_append,
    or_and_right, exists_or, exists_eq_left']

theorem undecorated_append (mark : marks ∈ decoration.matches')
    (plain : kind ≠ "decorated_definition") :
    undecorated (marks ++ kind :: outer) = kind :: outer := by
  rcases mem_decoration_iff.mp mark with rfl | rfl
  · rw [List.nil_append, undecorated, if_neg plain]
  · rw [List.singleton_append, undecorated, if_pos rfl]

theorem exists_decoration (around : undecorated kinds = kind :: outer) :
    ∃ marks ∈ decoration.matches', marks ++ kind :: outer = kinds := by
  cases kinds with
  | nil => cases around
  | cons first rest =>
      rw [undecorated] at around
      split at around
      · rename_i decorated
        rw [decorated, around]
        exact ⟨_, mem_decoration_iff.mpr (.inr rfl), rfl⟩
      · exact ⟨[], mem_decoration_iff.mpr (.inl rfl), around.symm⟩

end Ways

section Patterns

variable {kinds front way outer : List String}

theorem mem_levelPattern_of_module (last : way ∈ moduleWay.matches') :
    way ∈ levelPattern.matches' := by
  rw [levelPattern, RegularExpression.matches'_mul, RegularExpression.matches'_star,
    Language.mem_mul]
  exact ⟨[], Language.nil_mem_kstar _, way, last, rfl⟩

theorem mem_levelPattern_of_class (first : way ∈ classWay.matches')
    (onward : front ∈ levelPattern.matches') : way ++ front ∈ levelPattern.matches' := by
  rw [levelPattern, RegularExpression.matches'_mul, RegularExpression.matches'_star,
    Language.mem_mul] at onward ⊢
  obtain ⟨classes, passed, last, module, rfl⟩ := onward
  obtain ⟨ways, rfl, each⟩ := Language.mem_kstar.mp passed
  refine ⟨way ++ ways.flatten, ?_, last, module, List.append_assoc _ _ _⟩
  exact Language.mem_kstar.mpr ⟨way :: ways, rfl, List.forall_mem_cons.mpr ⟨first, each⟩⟩

/-- What holds of the way to a module, and of a way out of a class if it holds of the way onward,
holds of the whole pattern. -/
theorem levelPattern_induction {motive : List String → Prop}
    (module : ∀ way ∈ moduleWay.matches', motive way)
    (classDef : ∀ way ∈ classWay.matches', ∀ front, motive front → motive (way ++ front))
    (matched : front ∈ levelPattern.matches') : motive front := by
  rw [levelPattern, RegularExpression.matches'_mul, RegularExpression.matches'_star,
    Language.mem_mul] at matched
  obtain ⟨classes, passed, last, ends, rfl⟩ := matched
  obtain ⟨ways, rfl, each⟩ := Language.mem_kstar.mp passed
  clear passed
  induction ways with
  | nil => exact module last ends
  | cons way ways ih =>
      rw [List.flatten_cons, List.append_assoc]
      exact classDef way (each way List.mem_cons_self) _
        (ih fun other among => each other (List.mem_cons_of_mem _ among))

/-- The ancestors of a place at declaration level begin as the pattern says. -/
theorem DeclarationLevel.matched (level : DeclarationLevel kinds) :
    ∃ front, front <+: kinds ∧ front ∈ levelPattern.matches' := by
  induction level with
  | @module kinds outer around =>
      obtain ⟨marks, mark, rfl⟩ := exists_decoration around
      refine ⟨marks ++ ["module"], ⟨outer, by rw [List.append_assoc]; rfl⟩, ?_⟩
      exact mem_levelPattern_of_module (mem_moduleWay_iff.mpr ⟨marks, mark, .inl rfl⟩)
  | @moduleBlock kinds outer around =>
      obtain ⟨marks, mark, rfl⟩ := exists_decoration around
      refine ⟨marks ++ ["block", "module"], ⟨outer, by rw [List.append_assoc]; rfl⟩, ?_⟩
      exact mem_levelPattern_of_module (mem_moduleWay_iff.mpr ⟨marks, mark, .inr rfl⟩)
  | @classBody kinds outer around _ ih =>
      obtain ⟨marks, mark, rfl⟩ := exists_decoration around
      obtain ⟨front, ⟨rest, rfl⟩, matched⟩ := ih
      refine ⟨(marks ++ ["block", "class_definition"]) ++ front,
        ⟨rest, by simp only [List.append_assoc, List.cons_append, List.nil_append]⟩, ?_⟩
      exact mem_levelPattern_of_class (mem_classWay_iff.mpr ⟨marks, mark, rfl⟩) matched

theorem declarationLevel_of_matched (matched : front ∈ levelPattern.matches') :
    DeclarationLevel (front ++ outer) := by
  refine levelPattern_induction (motive := fun front => DeclarationLevel (front ++ outer)) ?_ ?_
    matched
  · intro way ends
    obtain ⟨marks, mark, rfl | rfl⟩ := mem_moduleWay_iff.mp ends
    · rw [List.append_assoc]
      exact .module (undecorated_append mark (by decide))
    · rw [List.append_assoc]
      exact .moduleBlock (undecorated_append mark (by decide))
  · intro way passes front declared
    obtain ⟨marks, mark, rfl⟩ := mem_classWay_iff.mp passes
    rw [List.append_assoc, List.append_assoc]
    exact .classBody (undecorated_append mark (by decide)) declared

theorem declarationLevel_iff_matched :
    DeclarationLevel kinds ↔ ∃ front, front <+: kinds ∧ front ∈ levelPattern.matches' := by
  constructor
  · exact DeclarationLevel.matched
  · rintro ⟨front, ⟨outer, rfl⟩, matched⟩
    exact declarationLevel_of_matched matched

/-- The kinds that may stand between a place at declaration level and its module. -/
def passable : List String := ["decorated_definition", "block", "class_definition"]

theorem passable_of_decoration (mark : way ∈ decoration.matches') :
    ∀ kind ∈ way, kind ∈ passable := by
  rcases mem_decoration_iff.mp mark with rfl | rfl
  · exact List.forall_mem_nil _
  · decide

theorem passable_of_classWay (passes : way ∈ classWay.matches') : ∀ kind ∈ way, kind ∈ passable := by
  obtain ⟨marks, mark, rfl⟩ := mem_classWay_iff.mp passes
  rw [List.forall_mem_append]
  exact ⟨passable_of_decoration mark, by decide⟩

/-- A module is not passable, so the next module lies behind all that is. -/
theorem takeWhile_passable (passes : ∀ kind ∈ way, kind ∈ passable) :
    (way ++ outer).takeWhile (· != "module") = way ++ outer.takeWhile (· != "module") := by
  apply List.takeWhile_append_of_pos
  intro kind among
  have other : ∀ kind ∈ passable, (kind != "module") = true := by decide
  exact other kind (passes kind among)

theorem takeWhile_moduleWay (ends : way ∈ moduleWay.matches') :
    ∀ kind ∈ (way ++ outer).takeWhile (· != "module"), kind ∈ passable := by
  obtain ⟨marks, mark, rfl | rfl⟩ := mem_moduleWay_iff.mp ends
  · rw [List.append_assoc, takeWhile_passable (passable_of_decoration mark)]
    simpa using passable_of_decoration mark
  · rw [List.append_assoc, takeWhile_passable (passable_of_decoration mark)]
    have block : "block" ∈ passable := by decide
    simpa [block, or_imp, forall_and] using passable_of_decoration mark

/-- All that stands between a place at declaration level and the next module is passable. -/
theorem DeclarationLevel.passable (level : DeclarationLevel kinds) :
    ∀ kind ∈ kinds.takeWhile (· != "module"), kind ∈ passable := by
  obtain ⟨front, ⟨outer, rfl⟩, matched⟩ := level.matched
  refine levelPattern_induction (motive := fun front =>
    ∀ kind ∈ (front ++ outer).takeWhile (· != "module"), kind ∈ Python.passable) ?_ ?_ matched
  · intro way ends
    exact takeWhile_moduleWay ends
  · intro way passes front inner
    have classes := passable_of_classWay passes
    rw [List.append_assoc, takeWhile_passable classes, List.forall_mem_append]
    exact ⟨classes, inner⟩

end Patterns

/-- From a statement to the owner of its body is a step outward, so no climb goes on for ever. -/
theorem acc_bodyOwner? (node : Node) :
    Acc (fun owner statement => bodyOwner? statement = some owner) node := by
  have outward : Subrelation (fun owner statement => bodyOwner? statement = some owner)
      (fun owner statement : Node => owner.above.length < statement.above.length) :=
    bodyOwner?_length
  exact outward.accessible ((measure fun node : Node => node.above.length).wf.apply node)

/-- The climb of every place ends. It says yes exactly where the kinds around the place, the nearest
first, begin as the pattern says; so it says no where anything but class bodies and decorated
definitions stands between the place and the next module. -/
theorem atDeclarationLevel_iff_matched (node : Node) :
    Acc (fun owner statement => bodyOwner? statement = some owner) node ∧
    (atDeclarationLevel node = true ↔
      ∃ kinds, kinds <+: node.ancestorKinds ∧ kinds ∈ levelPattern.matches') ∧
    ∀ kind ∈ node.ancestorKinds.takeWhile (· != "module"),
      kind ∉ ["decorated_definition", "block", "class_definition"] →
        atDeclarationLevel node = false := by
  refine ⟨acc_bodyOwner? node, ?_, fun kind between other => ?_⟩
  · rw [atDeclarationLevel_iff, declarationLevel_iff_matched]
  · apply Bool.eq_false_iff.mpr
    intro declared
    exact other (((atDeclarationLevel_iff node).mp declared).passable kind between)

end SyntaxSpans.Python
