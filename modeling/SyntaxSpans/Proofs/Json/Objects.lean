import SyntaxSpans.Proofs.Json.Skipping

set_option autoImplicit false

namespace SyntaxSpans.Json

section Objects

/-- A member of an object: its key as it is read, its value as it is written. -/
structure Member where
  key : String
  value : List Char
  deriving DecidableEq

/-- How a member may be written, with what is blank around it. -/
inductive SpellsMember : List Char → Member → Prop
  | parts {before spelling between gap after : List Char} {member : Member}
      (blank : Blanks before) (key : Spells spelling member.key.toList)
      (blankBetween : Blanks between) (blankGap : Blanks gap) (value : WritesValue member.value)
      (blankAfter : Blanks after) :
      SpellsMember (before ++ '"' :: (spelling ++ '"' :: (between ++ ':' ::
        (gap ++ (member.value ++ after))))) member

inductive SpellsMembers : List Char → List Member → Prop
  | last {text : List Char} {member : Member} (written : SpellsMember text member) :
      SpellsMembers text [member]
  | more {text rest : List Char} {member : Member} {members : List Member}
      (written : SpellsMember text member) (others : SpellsMembers rest members) :
      SpellsMembers (text ++ ',' :: rest) (member :: members)

/-- How an object may be written. -/
inductive SpellsObject : List Char → List Member → Prop
  | empty {front inner back : List Char} (blank : Blanks front) (blankInner : Blanks inner)
      (blankBack : Blanks back) : SpellsObject (front ++ '\x7b' :: (inner ++ '\x7d' :: back)) []
  | filled {front text back : List Char} {members : List Member} (blank : Blanks front)
      (written : SpellsMembers text members) (blankBack : Blanks back) :
      SpellsObject (front ++ '\x7b' :: (text ++ '\x7d' :: back)) members

/-- How often a key stands in an object. -/
def timesGiven (key : String) (members : List Member) : Nat := (members.map (·.key)).count key

theorem timesGiven_cons (key : String) (member : Member) (members : List Member) :
    timesGiven key (member :: members) =
      timesGiven key members + if member.key = key then 1 else 0 := by
  simp only [timesGiven, List.map_cons, List.count_cons, beq_iff_eq]

theorem timesGiven_cons_self (member : Member) (members : List Member) :
    timesGiven member.key (member :: members) = timesGiven member.key members + 1 := by
  rw [timesGiven_cons, if_pos rfl]

theorem timesGiven_le_cons (key : String) (member : Member) (members : List Member) :
    timesGiven key members ≤ timesGiven key (member :: members) := by
  rw [timesGiven_cons]
  exact Nat.le_add_right _ _

end Objects

section Compact

/-- A member as it is written with nothing blank around it. -/
def Member.compact (member : Member) : List Char :=
  '"' :: (member.key.toList ++ '"' :: ':' :: member.value)

def compactObject (members : List Member) : List Char :=
  '\x7b' :: ([','].intercalate (members.map Member.compact) ++ ['\x7d'])

/-- Whether a member is in order when its key is written as it is. -/
def Member.IsPlain (member : Member) : Prop :=
  member.key.toList.all isPlain = true ∧ WritesValue member.value

variable {member : Member} {members : List Member}

theorem spells_compact (plain : member.IsPlain) : SpellsMember member.compact member := by
  have written := @SpellsMember.parts [] member.key.toList [] [] [] member (List.forall_mem_nil _)
    (.ofPlain plain.1) (List.forall_mem_nil _) (List.forall_mem_nil _) plain.2
    (List.forall_mem_nil _)
  simpa only [Member.compact, List.nil_append, List.append_nil] using written

theorem spells_intercalate (each : ∀ member ∈ members, member.IsPlain) (some : members ≠ []) :
    SpellsMembers ([','].intercalate (members.map Member.compact)) members := by
  induction members with
  | nil => exact absurd rfl some
  | cons member members ih =>
      have first := spells_compact (each member List.mem_cons_self)
      cases members with
      | nil =>
          rw [List.map_cons, List.map_nil, List.intercalate_singleton]
          exact .last first
      | cons next others =>
          have onward := ih (fun next among => each next (List.mem_cons_of_mem _ among))
            (List.cons_ne_nil _ _)
          rw [List.map_cons, List.intercalate_cons_of_ne_nil (by simp), List.append_assoc]
          exact .more first onward

theorem spells_compactObject (each : ∀ member ∈ members, member.IsPlain) (some : members ≠ []) :
    SpellsObject (compactObject members) members := by
  have written := @SpellsObject.filled [] _ [] members (List.forall_mem_nil _)
    (spells_intercalate each some) (List.forall_mem_nil _)
  rwa [List.nil_append] at written

end Compact

end SyntaxSpans.Json
