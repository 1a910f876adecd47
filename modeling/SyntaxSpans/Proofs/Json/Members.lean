import SyntaxSpans.Proofs.Json.Consumption
import SyntaxSpans.Proofs.Json.Objects
import SyntaxSpans.Proofs.Json.Written

set_option autoImplicit false

namespace SyntaxSpans.Json

section Names

variable {σ : Type} {fields : List (Field σ)} {field : Field σ} {key : String}

theorem name_of_find? (known : fields.find? (·.name == key) = some field) : field.name = key := by
  simpa using List.find?_some known

theorem mem_names (known : fields.find? (·.name == key) = some field) :
    key ∈ fields.map (·.name) :=
  name_of_find? known ▸ List.mem_map_of_mem (List.mem_of_find?_eq_some known)

theorem not_mem_names (unknown : fields.find? (·.name == key) = none) :
    key ∉ fields.map (·.name) := by
  intro among
  obtain ⟨field, listed, name⟩ := List.mem_map.mp among
  exact List.find?_eq_none.mp unknown field listed (beq_iff_eq.mpr name)

end Names

section Gathering

variable {σ : Type}

/-- What a member does to the keys seen and to what is known, where `gives` relates the value of a
field to the changes of what is known that it can make. -/
inductive Takes (gives : Field σ → List Char → (σ → σ) → Prop) (fields : List (Field σ))
    (seen : List String) (state : σ) (member : Member) : List String → σ → Prop
  | other (unknown : fields.find? (·.name == member.key) = none) :
      Takes gives fields seen state member seen state
  | field {field : Field σ} {set : σ → σ}
      (known : fields.find? (·.name == member.key) = some field) (fresh : member.key ∉ seen)
      (given : gives field member.value set) :
      Takes gives fields seen state member (member.key :: seen) (set state)

/-- What members do one after the other. -/
inductive Gathers (gives : Field σ → List Char → (σ → σ) → Prop) (fields : List (Field σ)) :
    List String → σ → List Member → σ → Prop
  | nil {seen : List String} {state : σ} : Gathers gives fields seen state [] state
  | cons {seen seen' : List String} {state state' last : σ} {member : Member}
      {members : List Member} (takes : Takes gives fields seen state member seen' state')
      (others : Gathers gives fields seen' state' members last) :
      Gathers gives fields seen state (member :: members) last

variable {gives : Field σ → List Char → (σ → σ) → Prop} {fields : List (Field σ)}
  {seen : List String} {state last : σ} {members : List Member} {key : String}

/-- No field is taken that was seen before, and none is taken twice. -/
theorem Gathers.timesGiven_le (listed : key ∈ fields.map (·.name))
    (gathers : Gathers gives fields seen state members last) :
    (key ∈ seen → timesGiven key members = 0) ∧ timesGiven key members ≤ 1 := by
  induction gathers with
  | nil => exact ⟨fun _ => rfl, Nat.zero_le 1⟩
  | @cons seen seen' state state' last member members takes _ ih =>
      rw [timesGiven_cons]
      cases takes with
      | other unknown =>
          have different : member.key ≠ key := by
            rintro rfl
            exact not_mem_names unknown listed
          rw [if_neg different, Nat.add_zero]
          exact ih
      | field _ fresh _ =>
          by_cases same : member.key = key
          · have none := ih.1 (same ▸ List.mem_cons_self)
            rw [if_pos same, none]
            exact ⟨fun again => absurd (same ▸ again) fresh, Nat.le_refl 1⟩
          · rw [if_neg same, Nat.add_zero]
            exact ⟨fun before => ih.1 (List.mem_cons_of_mem _ before), ih.2⟩

/-- What every field among the members keeps true stays true. -/
theorem Gathers.keeps (Kept : σ → Prop)
    (gathers : Gathers gives fields seen state members last)
    (each : ∀ field ∈ fields, 0 < timesGiven field.name members → ∀ value set,
      gives field value set → ∀ state, Kept state → Kept (set state))
    (start : Kept state) : Kept last := by
  induction gathers with
  | nil => exact start
  | @cons seen seen' state state' last member members takes _ ih =>
      have later : ∀ field ∈ fields, 0 < timesGiven field.name members → ∀ value set,
          gives field value set → ∀ state, Kept state → Kept (set state) := by
        intro field listed given
        exact each field listed (Nat.lt_of_lt_of_le given (timesGiven_le_cons _ _ _))
      apply ih later
      cases takes with
      | other _ => exact start
      | @field field set known _ given =>
          have counted : 0 < timesGiven field.name (member :: members) := by
            rw [name_of_find? known, timesGiven_cons_self]
            exact Nat.succ_pos _
          exact each field (List.mem_of_find?_eq_some known) counted _ _ given _ start

/-- Where what is known depends on the keys passed alone, members are gathered if each field among
them adds its own key, no other does, and no field comes twice. -/
theorem gathers_of_view {view : List String → σ} {passed : List String}
    (field : ∀ member ∈ members, ∀ field, fields.find? (·.name == member.key) = some field →
      ∃ set, gives field member.value set ∧
        ∀ passed, set (view passed) = view (member.key :: passed))
    (other : ∀ member ∈ members, fields.find? (·.name == member.key) = none →
      ∀ passed, view (member.key :: passed) = view passed)
    (once : ∀ key ∈ fields.map (·.name), timesGiven key members ≤ 1)
    (fresh : ∀ key ∈ seen, timesGiven key members = 0) :
    Gathers gives fields seen (view passed) members
      (view ((members.map (·.key)).reverse ++ passed)) := by
  induction members generalizing seen passed with
  | nil => exact .nil
  | cons member members ih =>
      have onward := fun (seen : List String) (fresh : ∀ key ∈ seen, timesGiven key members = 0) =>
        @ih seen (member.key :: passed) (fun next among => field next (List.mem_cons_of_mem _ among))
          (fun next among => other next (List.mem_cons_of_mem _ among))
          (fun key listed => Nat.le_trans (timesGiven_le_cons _ _ _) (once key listed)) fresh
      have still : ∀ key ∈ seen, timesGiven key members = 0 := by
        intro key before
        exact Nat.eq_zero_of_le_zero (fresh key before ▸ timesGiven_le_cons key member members)
      rw [List.map_cons, List.reverse_cons, List.append_assoc, List.singleton_append]
      cases known : fields.find? (·.name == member.key) with
      | none =>
          refine .cons (.other known) ?_
          rw [← other member List.mem_cons_self known passed]
          exact onward seen still
      | some found =>
          obtain ⟨set, given, adds⟩ := field member List.mem_cons_self found known
          have counted := timesGiven_cons_self member members
          have unseen : member.key ∉ seen := by
            intro before
            have none := fresh member.key before
            omega
          have last : timesGiven member.key members = 0 := by
            have one := once member.key (mem_names known)
            omega
          -- The key joins those seen, and as it stands nowhere behind, all that was fresh stays so.
          refine .cons (.field known unseen given) ?_
          rw [adds passed]
          exact onward (member.key :: seen) (List.forall_mem_cons.mpr ⟨last, still⟩)

end Gathering

section Keys

variable {first : Bool} {lead before blanks spelling name rest : List Char}

/-- What stands in front of a member: nothing before the first one, a comma before any other. -/
inductive Leads : Bool → List Char → Prop
  | first : Leads true []
  | other {blanks : List Char} (blank : Blanks blanks) : Leads false (blanks ++ [','])

theorem nextKey_closing (first : Bool) (blank : Blanks blanks) (back : List Char) :
    nextKey first (blanks ++ '\x7d' :: back) = .ok (none, back) := by
  rw [nextKey, dropBlanks_append_cons blank (by decide)]
  rfl

theorem nextKey_of_leads (leads : Leads first lead) (blank : Blanks before)
    (spelled : Spells spelling name) :
    nextKey first (lead ++ (before ++ '"' :: (spelling ++ '"' :: rest))) = .ok (some name, rest) := by
  have start := dropBlanks_append_cons blank (show isBlank '"' = false by decide)
    (spelling ++ '"' :: rest)
  have read : nextKey.named (Reader.key ('"' :: (spelling ++ '"' :: rest))) =
      .ok (some name, rest) := by
    rw [Reader.key, spelled.string]
    rfl
  cases leads with
  | first =>
      rw [List.nil_append, nextKey, start]
      exact read
  | other blank' =>
      rw [List.append_assoc, List.singleton_append, nextKey,
        dropBlanks_append_cons blank' (by decide)]
      simp only [start]
      exact read

end Keys

section Reading

variable {σ : Type} {fields : List (Field σ)} {first : Bool} {seen seen' : List String}
  {state state' last : σ} {text after rest lead tail : List Char}

theorem members_closing (closed : nextKey first text = .ok (none, rest)) :
    Shape.members fields first seen state text = .ok (state, rest) := by
  rw [Shape.members]
  split
  · rename_i found
    cases closed.symm.trans found
  · rename_i found
    cases closed.symm.trans found
    rfl
  · rename_i found
    cases closed.symm.trans found

theorem members_of_key {key : String} (opened : nextKey first text = .ok (some key.toList, after)) :
    Shape.members fields first seen state text =
      Shape.member fields seen state key after >>= fun read =>
        Shape.members fields false read.1.1 read.1.2 read.2 := by
  rw [Shape.members]
  split
  · rename_i found
    cases opened.symm.trans found
  · rename_i found
    cases opened.symm.trans found
  · rename_i found
    cases opened.symm.trans found
    rw [String.ofList_toList]
    split
    · rename_i failed
      rw [failed]
      rfl
    · rename_i read
      rw [read]
      rfl

def Field.Reads (field : Field σ) (written : List Char) (set : σ → σ) : Prop :=
  field.reader.Reads written set

/-- A change that a field makes for some value; which one is left open. -/
def Field.Gives (field : Field σ) (_ : List Char) (set : σ → σ) : Prop :=
  ∃ text rest, field.reader.run text = .ok (set, rest)

section Values

variable {β : Type} {reader : Reader β} {name : String} {change : β → σ → σ} {set : σ → σ}
  {written : List Char}

theorem Field.reads_of_reader {value : β} (reads : reader.Reads written value) :
    Field.Reads ⟨name, reader.map change⟩ written (change value) :=
  reads.map change

theorem Field.skipsAlike_of_reader (alike : reader.SkipsAlike) :
    (Field.mk name (reader.map change)).reader.SkipsAlike :=
  alike.map change

theorem Field.exists_of_gives (gives : Field.Gives ⟨name, reader.map change⟩ written set) :
    ∃ value, change value = set := by
  obtain ⟨text, rest, read⟩ := gives
  obtain ⟨value, -, same⟩ := Reader.map_eq_ok_iff.mp read
  exact ⟨value, same⟩

end Values

section Members

variable {member : Member} {between gap : List Char}

theorem skip_behind_key (blank : Blanks between) (blankGap : Blanks gap)
    (value : WritesValue member.value) (ends : EndsNumber rest) :
    colon (between ++ ':' :: (gap ++ (member.value ++ rest))) >>= skip = .ok rest := by
  rw [colon_append blank]
  exact value.skip_append blankGap ends

theorem member_of_takes (blank : Blanks between) (blankGap : Blanks gap)
    (value : WritesValue member.value) (ends : EndsNumber rest)
    (takes : Takes Field.Reads fields seen state member seen' state') :
    Shape.member fields seen state member.key (between ++ ':' :: (gap ++ (member.value ++ rest))) =
      .ok ((seen', state'), rest) := by
  unfold Shape.member
  cases takes with
  | other unknown =>
      simp only [unknown]
      rw [skip_behind_key blank blankGap value ends]
      rfl
  | field known fresh given =>
      simp only [known, colon_append blank]
      rw [if_neg (by simpa using fresh)]
      exact Reader.map_eq_ok_iff.mpr ⟨_, given blankGap ends, rfl⟩

/-- A member that is read is read up to the end of its value, whatever it is read as. -/
theorem takes_of_member {left : List Char} (alike : ∀ field ∈ fields, field.reader.SkipsAlike)
    (blank : Blanks between) (blankGap : Blanks gap) (value : WritesValue member.value)
    (ends : EndsNumber rest)
    (read : Shape.member fields seen state member.key
      (between ++ ':' :: (gap ++ (member.value ++ rest))) = .ok ((seen', state'), left)) :
    left = rest ∧ Takes Field.Gives fields seen state member seen' state' := by
  unfold Shape.member at read
  split at read
  · rename_i unknown
    rw [skip_behind_key blank blankGap value ends] at read
    cases read
    exact ⟨rfl, .other unknown⟩
  · rename_i field known
    rw [colon_append blank] at read
    split at read
    · cases read
    · rename_i again
      obtain ⟨set, run, same⟩ := Reader.map_eq_ok_iff.mp read
      cases same
      have onward := alike field (List.mem_of_find?_eq_some known) run
      rw [value.skip_append blankGap ends] at onward
      cases onward
      exact ⟨rfl, .field known (by simpa using again) ⟨_, _, run⟩⟩

/-- A member that is taken is read, whatever stands in front of it; blanks are left of it. -/
theorem SpellsMember.read (written : SpellsMember text member) (leads : Leads first lead)
    (ends : EndsNumber tail) (takes : Takes Field.Reads fields seen state member seen' state') :
    ∃ blanks, Blanks blanks ∧
      Shape.members fields first seen state (lead ++ (text ++ tail)) =
        Shape.members fields false seen' state' (blanks ++ tail) := by
  cases written with
  | @parts before spelling between gap after _ blank key blankBetween blankGap value blankAfter =>
      refine ⟨after, blankAfter, ?_⟩
      simp only [List.append_assoc, List.cons_append]
      rw [members_of_key (nextKey_of_leads leads blank key),
        member_of_takes blankBetween blankGap value (.blanks blankAfter ends) takes]
      rfl

theorem SpellsMember.taken {result : σ × List Char} (written : SpellsMember text member)
    (alike : ∀ field ∈ fields, field.reader.SkipsAlike) (leads : Leads first lead)
    (ends : EndsNumber tail)
    (read : Shape.members fields first seen state (lead ++ (text ++ tail)) = .ok result) :
    ∃ blanks seen' state', Blanks blanks ∧ Takes Field.Gives fields seen state member seen' state' ∧
      Shape.members fields false seen' state' (blanks ++ tail) = .ok result := by
  cases written with
  | @parts before spelling between gap after _ blank key blankBetween blankGap value blankAfter =>
      simp only [List.append_assoc, List.cons_append] at read
      rw [members_of_key (nextKey_of_leads leads blank key), bind_eq_ok] at read
      obtain ⟨⟨⟨seen', state'⟩, left⟩, taken, onward⟩ := read
      obtain ⟨rfl, takes⟩ :=
        takes_of_member alike blankBetween blankGap value (.blanks blankAfter ends) taken
      exact ⟨after, seen', state', blankAfter, takes, onward⟩

end Members

section Structures

variable {members : List Member}

/-- Members that can be gathered are read up to the closing brace. -/
theorem SpellsMembers.read (written : SpellsMembers text members) (leads : Leads first lead)
    (gathers : Gathers Field.Reads fields seen state members last) (back : List Char) :
    Shape.members fields first seen state (lead ++ (text ++ '\x7d' :: back)) = .ok (last, back) := by
  induction written generalizing first lead seen state with
  | last written =>
      cases gathers with
      | cons takes others =>
          cases others
          have ends : EndsNumber ('\x7d' :: back) := .cons (by decide)
          obtain ⟨blanks, blank, same⟩ := written.read leads ends takes
          rw [same]
          exact members_closing (nextKey_closing false blank back)
  | @more text rest member members written _ ih =>
      cases gathers with
      | cons takes others =>
          have ends : EndsNumber (',' :: (rest ++ '\x7d' :: back)) := .cons (by decide)
          obtain ⟨blanks, blank, same⟩ := written.read leads ends takes
          rw [List.append_assoc, List.cons_append, same]
          have onward := ih (.other blank) others
          rwa [List.append_assoc] at onward

theorem SpellsMembers.gathered {result : σ × List Char} (written : SpellsMembers text members)
    (alike : ∀ field ∈ fields, field.reader.SkipsAlike) (leads : Leads first lead)
    {back : List Char}
    (read : Shape.members fields first seen state (lead ++ (text ++ '\x7d' :: back)) = .ok result) :
    Gathers Field.Gives fields seen state members result.1 := by
  induction written generalizing first lead seen state with
  | last written =>
      have ends : EndsNumber ('\x7d' :: back) := .cons (by decide)
      obtain ⟨blanks, seen', state', blank, takes, closed⟩ := written.taken alike leads ends read
      rw [members_closing (nextKey_closing false blank back)] at closed
      cases closed
      exact .cons takes .nil
  | @more text rest member members written _ ih =>
      rw [List.append_assoc, List.cons_append] at read
      have ends : EndsNumber (',' :: (rest ++ '\x7d' :: back)) := .cons (by decide)
      obtain ⟨blanks, seen', state', blank, takes, onward⟩ := written.taken alike leads ends read
      refine .cons takes (ih (.other blank) ?_)
      rwa [List.append_assoc]

variable {α : Type} {shape : Shape σ α} {value : α} {inner : List Char}

theorem run_of_document {run : List Char → Except Failure (α × List Char)}
    (read : document run text = .ok value) : ∃ rest, run text = .ok (value, rest) := by
  unfold document at read
  split at read
  · cases read
  · rename_i found rest ran
    split at read
    · cases read
      exact ⟨rest, ran⟩
    · cases read

theorem Shape.run_eq_ok_iff (start : dropBlanks text = '\x7b' :: inner) :
    shape.run text = .ok (value, rest) ↔
      ∃ last, Shape.members shape.fields true [] shape.start inner = .ok (last, rest) ∧
        shape.finish last = .ok value := by
  simp only [Shape.run, start]
  cases Shape.members shape.fields true [] shape.start inner with
  | error failure => simp
  | ok pair =>
      obtain ⟨last, left⟩ := pair
      simp only [Except.ok.injEq, Prod.mk.injEq, and_assoc, exists_eq_left']
      cases shape.finish last with
      | error problem => simp
      | ok known =>
          simp only [Except.ok.injEq, Prod.mk.injEq]
          exact and_comm

/-- An object whose members can be gathered is read as what is made of them. -/
theorem SpellsObject.read (written : SpellsObject text members)
    (gathers : Gathers Field.Reads shape.fields [] shape.start members last)
    (finished : shape.finish last = .ok value) : document shape.run text = .ok value := by
  cases written with
  | empty blank blankInner blankBack =>
      cases gathers
      have start := dropBlanks_append_cons blank (show isBlank '\x7b' = false by decide)
      refine document_of_run ((Shape.run_eq_ok_iff (start _)).mpr ⟨_, ?_, finished⟩) blankBack
      exact members_closing (nextKey_closing true blankInner _)
  | filled blank written blankBack =>
      have start := dropBlanks_append_cons blank (show isBlank '\x7b' = false by decide)
      refine document_of_run ((Shape.run_eq_ok_iff (start _)).mpr ⟨_, ?_, finished⟩) blankBack
      exact written.read .first gathers _

/-- Where an object is read, its members have been gathered, and the value is made of them. -/
theorem SpellsObject.gathered (written : SpellsObject text members)
    (alike : ∀ field ∈ shape.fields, field.reader.SkipsAlike)
    (read : document shape.run text = .ok value) :
    ∃ last, Gathers Field.Gives shape.fields [] shape.start members last ∧
      shape.finish last = .ok value := by
  obtain ⟨rest, run⟩ := run_of_document read
  cases written with
  | empty blank blankInner blankBack =>
      rw [Shape.run_eq_ok_iff (dropBlanks_append_cons blank (by decide) _)] at run
      obtain ⟨last, closed, finished⟩ := run
      rw [members_closing (nextKey_closing true blankInner _)] at closed
      cases closed
      exact ⟨_, .nil, finished⟩
  | filled blank written blankBack =>
      rw [Shape.run_eq_ok_iff (dropBlanks_append_cons blank (by decide) _)] at run
      obtain ⟨last, taken, finished⟩ := run
      exact ⟨last, written.gathered alike .first taken, finished⟩

end Structures

section Views

variable {α : Type} {shape : Shape σ α} {value : α} {own members : List Member}
  {view : List String → σ}

/-- Under the given keys an object holds nothing but the given members. -/
def HoldsOnly (keys : List String) (own members : List Member) : Prop :=
  ∀ member ∈ members, member.key ∈ keys → member ∈ own

instance (keys : List String) (own members : List Member) :
    Decidable (HoldsOnly keys own members) :=
  inferInstanceAs (Decidable (∀ member ∈ members, member.key ∈ keys → member ∈ own))

/-- What a structure knows is a matter of the keys passed: each of the given members adds its own, and
a key of no field adds nothing. -/
structure Shape.Knows (shape : Shape σ α) (own : List Member) (view : List String → σ) : Prop where
  start : view [] = shape.start
  field : ∀ member ∈ own, ∃ field set, shape.fields.find? (·.name == member.key) = some field ∧
    field.Reads member.value set ∧ ∀ passed, set (view passed) = view (member.key :: passed)
  other : ∀ key, shape.fields.find? (·.name == key) = none →
    ∀ passed, view (key :: passed) = view passed

/-- An object is read as what is known after its keys, if no field comes twice and each has the value
it is known with. -/
theorem SpellsObject.read_knowing (written : SpellsObject text members)
    (knows : shape.Knows own view)
    (holds : HoldsOnly (shape.fields.map (·.name)) own members)
    (once : ∀ key ∈ shape.fields.map (·.name), timesGiven key members ≤ 1)
    (finished : shape.finish (view (members.map (·.key)).reverse) = .ok value) :
    document shape.run text = .ok value := by
  refine written.read ?_ finished
  have gathers := @gathers_of_view σ Field.Reads shape.fields [] members view [] ?_
    (fun member _ unknown => knows.other member.key unknown) once (List.forall_mem_nil _)
  · rwa [knows.start, List.append_nil] at gathers
  · intro member among field known
    obtain ⟨same, set, found, reads, adds⟩ :=
      knows.field member (holds member among (mem_names known))
    cases known.symm.trans found
    exact ⟨set, reads, adds⟩

end Views

end Reading

end SyntaxSpans.Json
