import HouseholdDashboard.Number.Decimal

/-!
# Decimal digits are read back

`unsigned?_toString`: a number comes back from its digits, and `unsigned?_neg` says that the text of
a negative one is not taken for a number without a sign.  No number but zero begins with a zero
(`eq_zero_of_head?_digits`), so that its digits are also a number of a JSON text.
-/

namespace HouseholdDashboard.Decimal

theorem ofDigits_digits (n : Nat) : ofDigits (digits n) = n := by
  have same : ofDigits (digits n) = Nat.ofDigitChars 10 (Nat.toDigits 10 n) 0 := rfl
  rw [same, Nat.ofDigitChars_ten_toDigits]

theorem isDigit_of_mem_digits {n : Nat} {c : Char} (mem : c ∈ digits n) : c.isDigit = true :=
  Nat.isDigit_of_mem_toDigits (by decide) (by decide) mem

theorem all_isDigit_digits (n : Nat) : (digits n).all Char.isDigit = true :=
  List.all_eq_true.mpr fun _ mem => isDigit_of_mem_digits mem

theorem digits_ne_nil (n : Nat) : digits n ≠ [] :=
  Nat.toDigits_ne_nil

/-- No number but zero begins with a zero. -/
theorem eq_zero_of_head?_digits {n : Nat} (zero : (digits n).head? = some '0') : n = 0 := by
  induction n using Nat.strongRecOn with
  | ind n ih =>
    by_cases short : n < 10
    · have single : ∀ d < 10, (digits d).head? = some '0' → d = 0 := by decide
      exact single n short zero
    · have split : digits n = digits (n / 10) ++ [(n % 10).digitChar] :=
        Nat.toDigits_of_base_le (by decide) (by omega)
      have front : (digits n).head? = (digits (n / 10)).head? := by
        rw [split]
        cases rest : digits (n / 10) with
        | nil => exact absurd rest (digits_ne_nil _)
        | cons d ds => rfl
      have none_front := ih (n / 10) (by omega) (front ▸ zero)
      omega

/-! ## Texts of numbers -/

theorem toList_toString (n : Nat) : (toString n).toList = digits n := by
  rw [Nat.toString_eq_repr, Nat.toList_repr]
  rfl

/-- A whole number is written as its digits, with a minus sign before them if it is negative. -/
theorem toList_toString_int (n : Int) :
    (toString n).toList = if n < 0 then '-' :: digits n.natAbs else digits n.natAbs := by
  rw [Int.toString_eq_repr, Int.repr_eq_if]
  by_cases negative : n < 0
  · have count : (-n).toNat = n.natAbs := by omega
    rw [if_neg (by omega), if_pos negative, String.toList_append, count, Nat.toList_repr]
    rfl
  · have count : n.toNat = n.natAbs := by omega
    rw [if_pos (by omega), if_neg negative, count, Nat.toList_repr]
    rfl

theorem unsigned?_digits (n : Nat) : unsigned? (digits n) = some n := by
  have noSign : ∀ ds, digits n ≠ '+' :: ds := fun ds same => by
    have digit := isDigit_of_mem_digits (n := n) (c := '+') (by rw [same]; exact List.mem_cons_self)
    exact absurd digit (by decide)
  have nonempty : (digits n).isEmpty = false := List.isEmpty_eq_false_iff.mpr (digits_ne_nil n)
  unfold unsigned?
  split
  · rename_i ds same
    exact absurd same (noSign ds)
  · simp only [nonempty, all_isDigit_digits, ofDigits_digits]
    rfl

theorem unsigned?_toString (n : Nat) : unsigned? (toString n).toList = some n := by
  rw [toList_toString, unsigned?_digits]

/-- The text of a negative number is no number without a sign. -/
theorem unsigned?_neg {n : Int} (negative : n < 0) : unsigned? (toString n).toList = none := by
  rw [toList_toString_int, if_pos negative]
  rfl

end HouseholdDashboard.Decimal
