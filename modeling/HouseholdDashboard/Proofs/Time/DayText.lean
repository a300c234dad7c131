import HouseholdDashboard.Proofs.Number.Digits
import HouseholdDashboard.Text.Split
import HouseholdDashboard.Time.Display

/-!
# The text of a day tells the day

A number with leading zeros is read back (`ofDigits_padded`), a year is known by its sign and its
digits, also before year 0 and from year 10000 on (`yearText_injective`), and none of the parts of a
date has a slash in it.  So no two dates have the same text (`dayText_injective`).
-/

namespace HouseholdDashboard

namespace Rfc3339

/-! ## Numbers with leading zeros -/

theorem ofDigits_padded (width n : Nat) : Decimal.ofDigits (padded width n) = n := by
  have zeros : ∀ k ds, Decimal.ofDigits (List.replicate k '0' ++ ds) = Decimal.ofDigits ds := by
    intro k ds
    induction k with
    | zero => rfl
    | succ k ih =>
      rw [List.replicate_succ, List.cons_append]
      exact ih
  rw [padded, zeros, Decimal.ofDigits_digits]

theorem padded_injective (width : Nat) : Function.Injective (padded width) := by
  intro m n same
  rw [← ofDigits_padded width m, same, ofDigits_padded]

theorem isDigit_of_mem_padded {width n : Nat} {c : Char} (mem : c ∈ padded width n) :
    c.isDigit = true := by
  rcases List.mem_append.mp mem with zero | digit
  · rw [List.eq_of_mem_replicate zero]
    rfl
  · exact Decimal.isDigit_of_mem_digits digit

theorem not_mem_padded {width n : Nat} {c : Char} (other : c.isDigit = false) :
    c ∉ padded width n := by
  intro mem
  rw [isDigit_of_mem_padded mem] at other
  cases other

/-! ## Years -/

theorem yearText_injective : Function.Injective yearText := by
  intro m n same
  unfold yearText at same
  have sign : ∀ y : Int, (if y < 0 then '-' else '+').isDigit = false := by
    intro y
    split <;> rfl
  by_cases plain : 0 ≤ m ∧ m ≤ 9999
  · rw [if_pos plain] at same
    by_cases plain' : 0 ≤ n ∧ n ≤ 9999
    · rw [if_pos plain'] at same
      have := padded_injective 4 same
      omega
    · -- a sign is no digit
      rw [if_neg plain'] at same
      exact absurd (same ▸ List.mem_cons_self) (not_mem_padded (sign n))
  · rw [if_neg plain] at same
    by_cases plain' : 0 ≤ n ∧ n ≤ 9999
    · rw [if_pos plain'] at same
      exact absurd (same ▸ List.mem_cons_self) (not_mem_padded (sign m))
    · rw [if_neg plain'] at same
      obtain ⟨signs, digits⟩ := List.cons.inj same
      have sizes := padded_injective 4 digits
      by_cases before : m < 0
      · by_cases before' : n < 0
        · omega
        · simp [before, before'] at signs
      · by_cases before' : n < 0
        · simp [before, before'] at signs
        · omega

end Rfc3339

namespace Display

open Rfc3339

theorem dayText_injective : Function.Injective dayText := by
  intro d e same
  have chars := String.ofList_injective same
  simp only [List.append_assoc, List.cons_append] at chars
  have slash : '/'.isDigit = false := rfl
  have parts := congrArg (Text.splitFirst '/') chars
  rw [Text.splitFirst_append '/' (not_mem_padded slash),
    Text.splitFirst_append '/' (not_mem_padded slash)] at parts
  obtain ⟨days, rest⟩ := Prod.mk.inj parts
  have parts' := congrArg (Text.splitFirst '/') rest
  rw [Text.splitFirst_append '/' (not_mem_padded slash),
    Text.splitFirst_append '/' (not_mem_padded slash)] at parts'
  obtain ⟨months, years⟩ := Prod.mk.inj parts'
  have day : d.day = e.day := padded_injective 2 days
  have month : d.month = e.month := padded_injective 2 months
  have year : d.year = e.year := yearText_injective years
  cases d
  cases e
  simp_all only

/-- The sign of a year tells the year before year 0 from year 1. -/
example : dayText ⟨-1, 12, 31⟩ = "31/12/-0001" ∧ dayText ⟨1, 12, 31⟩ = "31/12/0001" := by
  decide +kernel

end Display

end HouseholdDashboard
