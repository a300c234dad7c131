import HouseholdDashboard.Text.Blank
import Mathlib.Data.List.Basic
import Mathlib.Data.List.TakeWhile

/-!
# Blanks around a text

A text that neither begins nor ends with a blank is left as it is (`trim_eq_self`), and blanks that
are put around a text do not count (`trim_surrounded`).  A text whose first word is known still
begins with that word (`trim_word`).
-/

namespace HouseholdDashboard.Text

theorem toNat_of_isDigit {c : Char} (digit : c.isDigit = true) :
    48 ≤ c.toNat ∧ c.toNat ≤ 57 := by
  obtain ⟨low, high⟩ := Bool.and_eq_true_iff.mp digit
  exact ⟨of_decide_eq_true low, of_decide_eq_true high⟩

theorem isBlank_of_isDigit {c : Char} (digit : c.isDigit = true) : isBlank c = false := by
  have range := toNat_of_isDigit digit
  simp [isBlank]
  omega

theorem dropBlanks_eq_self {cs : List Char} (first : ∀ c ∈ cs.head?, isBlank c = false) :
    dropBlanks cs = cs := by
  cases cs with
  | nil => rfl
  | cons c cs =>
    have kept : ¬ isBlank c = true := by simp [first c rfl]
    exact List.dropWhile_cons_of_neg kept

theorem trim_eq_self {cs : List Char} (first : ∀ c ∈ cs.head?, isBlank c = false)
    (last : ∀ c ∈ cs.getLast?, isBlank c = false) : trim cs = cs := by
  rw [trim, dropBlanks_eq_self first, dropBlanks_eq_self (List.head?_reverse ▸ last),
    List.reverse_reverse]

theorem dropBlanks_append {before : List Char} (blank : ∀ c ∈ before, isBlank c = true)
    (cs : List Char) : dropBlanks (before ++ cs) = dropBlanks cs :=
  List.dropWhile_append_of_pos blank

/-- Blanks around a text do not count. -/
theorem trim_surrounded {before after : List Char} (blankBefore : ∀ c ∈ before, isBlank c = true)
    (blankAfter : ∀ c ∈ after, isBlank c = true) (cs : List Char) :
    trim (before ++ (cs ++ after)) = trim cs := by
  have blankReversed : ∀ c ∈ after.reverse, isBlank c = true := by
    intro c mem
    exact blankAfter c (List.mem_reverse.mp mem)
  unfold trim
  rw [dropBlanks_append blankBefore]
  by_cases nothing : dropBlanks cs = []
  · have none : dropBlanks (cs ++ after) = [] := by
      have blank : ∀ c ∈ cs, isBlank c = true := List.dropWhile_eq_nil_iff.mp nothing
      apply List.dropWhile_eq_nil_iff.mpr
      intro c mem
      rcases List.mem_append.mp mem with inside | behind
      · exact blank c inside
      · exact blankAfter c behind
    rw [none, nothing]
  · have kept : ¬(cs.dropWhile isBlank).isEmpty = true := fun isEmpty =>
      nothing (List.isEmpty_iff.mp isEmpty)
    have front : dropBlanks (cs ++ after) = dropBlanks cs ++ after := by
      rw [dropBlanks, List.dropWhile_append, if_neg kept]
      rfl
    rw [front, List.reverse_append, dropBlanks_append blankReversed]

/-- Of what follows a word without blanks, only the end is taken off. -/
theorem trim_word {before word : List Char} (blankBefore : ∀ c ∈ before, isBlank c = true)
    (nonempty : word ≠ []) (solid : ∀ c ∈ word, isBlank c = false) (rest : List Char) :
    trim (before ++ (word ++ rest)) = word ++ (dropBlanks rest.reverse).reverse := by
  have front : dropBlanks (before ++ (word ++ rest)) = word ++ rest := by
    rw [dropBlanks_append blankBefore]
    apply dropBlanks_eq_self
    intro c first
    rw [List.head?_append_of_ne_nil _ nonempty] at first
    exact solid c (List.mem_of_mem_head? first)
  have back : dropBlanks (rest.reverse ++ word.reverse) =
      dropBlanks rest.reverse ++ word.reverse := by
    have kept : dropBlanks word.reverse = word.reverse := by
      apply dropBlanks_eq_self
      intro c last
      exact solid c (List.mem_reverse.mp (List.mem_of_mem_head? last))
    rw [dropBlanks, List.dropWhile_append]
    split
    · rename_i nothing
      rw [dropBlanks, List.isEmpty_iff.mp nothing]
      exact kept
    · rfl
  rw [trim, front, List.reverse_append, back, List.reverse_append, List.reverse_reverse]

end HouseholdDashboard.Text
