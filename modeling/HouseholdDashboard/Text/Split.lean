/-!
# Splitting text

A text with separators is the list of the parts between them; there is always at
least one part.  Joining the parts again gives the text.
-/

namespace HouseholdDashboard.Text

/-- The parts of a text between the separators. -/
def split (separator : Char) : List Char → List (List Char)
  | [] => [[]]
  | c :: cs =>
    if c = separator then [] :: split separator cs
    else
      match split separator cs with
      | [] => [[c]]
      | part :: parts => (c :: part) :: parts

/-- The parts of a text with a separator between them. -/
def join (separator : Char) : List (List Char) → List Char
  | [] => []
  | [part] => part
  | part :: parts => part ++ separator :: join separator parts

/-- The text before the first separator and the text after it; nothing is after a text without
one. -/
def splitFirst (separator : Char) (cs : List Char) : List Char × List Char :=
  (cs.takeWhile (· ≠ separator), (cs.dropWhile (· ≠ separator)).drop 1)

theorem split_ne_nil (separator : Char) (cs : List Char) : split separator cs ≠ [] := by
  cases cs with
  | nil => exact List.cons_ne_nil _ _
  | cons c cs =>
    unfold split
    split
    · exact List.cons_ne_nil _ _
    · split <;> exact List.cons_ne_nil _ _

theorem join_split (separator : Char) (cs : List Char) :
    join separator (split separator cs) = cs := by
  induction cs with
  | nil => rfl
  | cons c cs ih =>
    obtain ⟨part, parts, h⟩ := List.exists_cons_of_ne_nil (split_ne_nil separator cs)
    rw [h] at ih
    unfold split
    split
    · rename_i same
      rw [h, same]
      simp only [join, ih, List.nil_append]
    · rw [h]
      cases parts with
      | nil => simp only [join] at ih ⊢; rw [ih]
      | cons next parts => simp only [join] at ih ⊢; rw [← ih]; rfl

/-- A text without the separator is split off from what follows the first one. -/
theorem splitFirst_append (separator : Char) {before : List Char} (free : separator ∉ before)
    (after : List Char) : splitFirst separator (before ++ separator :: after) = (before, after) := by
  have passes : ∀ c ∈ before, (decide (c ≠ separator)) = true := fun c mem =>
    decide_eq_true fun same => free (same ▸ mem)
  rw [splitFirst, List.takeWhile_append_of_pos passes, List.dropWhile_append_of_pos passes]
  simp

end HouseholdDashboard.Text
