set_option autoImplicit false

namespace SyntaxSpans

/-- The parts between the separators; there is always one part more than there are separators. -/
def splitAtEvery (separator : Char) : List Char → List (List Char)
  | [] => [[]]
  | char :: rest =>
      if char = separator then [] :: splitAtEvery separator rest
      else
        match splitAtEvery separator rest with
        | [] => [[char]]
        | part :: parts => (char :: part) :: parts

def splitText (separator : Char) (text : String) : List String :=
  (splitAtEvery separator text.toList).map String.ofList

theorem splitAtEvery_of_not_mem {separator : Char} {text : List Char} (absent : separator ∉ text) :
    splitAtEvery separator text = [text] := by
  induction text with
  | nil => rfl
  | cons char rest ih =>
      have other : char ≠ separator := fun same => absent (same ▸ List.mem_cons_self)
      have inside : separator ∉ rest := fun mem => absent (List.mem_cons_of_mem _ mem)
      simp only [splitAtEvery, if_neg other, ih inside]

/-- A part without separators comes off the front. -/
theorem splitAtEvery_append {separator : Char} {part : List Char} (absent : separator ∉ part)
    (rest : List Char) :
    splitAtEvery separator (part ++ separator :: rest) = part :: splitAtEvery separator rest := by
  induction part with
  | nil => simp only [List.nil_append, splitAtEvery, if_true]
  | cons char part ih =>
      have other : char ≠ separator := fun same => absent (same ▸ List.mem_cons_self)
      have inside : separator ∉ part := fun mem => absent (List.mem_cons_of_mem _ mem)
      simp only [List.cons_append, splitAtEvery, if_neg other, ih inside]

end SyntaxSpans
