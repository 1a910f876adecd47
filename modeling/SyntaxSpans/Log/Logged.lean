import SyntaxSpans.Log.Event

set_option autoImplicit false

namespace SyntaxSpans

structure Logged (α : Type) where
  value : α
  events : List Log.Event

namespace Logged

variable {ε α β : Type}

def quiet (value : α) : Logged α := ⟨value, []⟩

/-- Goes on with a result if there is one; the notes of both stay. -/
def andThen (first : Logged (Except ε α)) (next : α → Logged (Except ε β)) :
    Logged (Except ε β) :=
  match first.value with
  | .error reason => ⟨.error reason, first.events⟩
  | .ok value => ⟨(next value).value, first.events ++ (next value).events⟩

theorem value_andThen (first : Logged (Except ε α)) (next : α → Logged (Except ε β)) :
    (first.andThen next).value = first.value >>= fun value => (next value).value := by
  unfold andThen
  cases first.value <;> rfl

end Logged

end SyntaxSpans
