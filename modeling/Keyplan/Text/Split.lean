/-!
# Splitting a text at a character
-/

namespace Keyplan.Text

/-- The parts of a text between the occurrences of a character. -/
def splitBy (sep : Char) : List Char → List (List Char)
  | [] => [[]]
  | c :: cs =>
    if c = sep then [] :: splitBy sep cs
    else
      match splitBy sep cs with
      | [] => [[c]]
      | part :: parts => (c :: part) :: parts

/-- A text has at least one part. -/
theorem splitBy_ne_nil (sep : Char) (cs : List Char) : splitBy sep cs ≠ [] := by
  cases cs with
  | nil => simp [splitBy]
  | cons c cs =>
    rw [splitBy]
    split
    · simp
    · split <;> simp

/-- A separator ends a part. -/
theorem splitBy_append (sep : Char) (front back : List Char) :
    splitBy sep (front ++ sep :: back) = splitBy sep front ++ splitBy sep back := by
  induction front with
  | nil => simp [splitBy]
  | cons c front ih =>
    rw [List.cons_append, splitBy, splitBy]
    by_cases hc : c = sep
    · simp [hc, ih]
    · rw [if_neg hc, if_neg hc, ih]
      cases hparts : splitBy sep front with
      | nil => exact absurd hparts (splitBy_ne_nil sep front)
      | cons part parts => rfl

/-- A text without the separator is one part. -/
theorem splitBy_of_notMem {sep : Char} {cs : List Char} (h : sep ∉ cs) : splitBy sep cs = [cs] := by
  induction cs with
  | nil => rfl
  | cons c cs ih =>
    rw [List.mem_cons, not_or] at h
    rw [splitBy, if_neg (Ne.symm h.1), ih h.2]

end Keyplan.Text
