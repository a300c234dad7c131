import HouseholdDashboard.Proofs.Text.Blank
import HouseholdDashboard.Proofs.Time.Calendar
import HouseholdDashboard.Proofs.Time.DayText
import HouseholdDashboard.Backend.Query
import HouseholdDashboard.Time.Timestamp
import Mathlib.Algebra.Group.Nat.Defs

/-!
# Times are read back as they were written

A field of fixed width is read back, with what follows it as the rest (`number?_padded`,
`fraction?_padded`), and so is a text whose date has four digits of year (`instant?_fields`).  An
instant in UTC is written to the millisecond, so what is read back is the instant without the rest
of its fraction (`instant?_utcText`).  As a timestamp of the backend such a text is neither a count
of milliseconds nor has it blanks to take off (`Timestamp.instant?_dateText`).  Hence the cutoff of
a query and the times that come back are on one scale (`Backend.Query.since_read_back`).
-/

namespace HouseholdDashboard

/-- An instant without what its fraction has below a millisecond. -/
def Instant.truncated (t : Instant) : Instant :=
  ⟨t.seconds, t.nanos / 1000000 * 1000000, t.first_le, t.le_last, by
    have := t.nanos_lt
    omega⟩

theorem Instant.toMillis_truncated (t : Instant) : t.truncated.toMillis = t.toMillis := by
  ext
  simp [toMillis, truncated]

namespace Rfc3339

/-! ## Fields of fixed width -/

theorem length_padded {width n : Nat} (pos : 0 < width) (small : n < 10 ^ width) :
    (padded width n).length = width := by
  have short : (Decimal.digits n).length ≤ width :=
    (Nat.length_toDigits_le_iff (by decide) pos).mpr small
  simp only [padded, List.length_append, List.length_replicate]
  omega

theorem number?_padded {width n : Nat} (pos : 0 < width) (small : n < 10 ^ width)
    (rest : List Char) : number? width (padded width n ++ rest) = some (n, rest) := by
  have length := length_padded pos small
  have digits : (padded width n).all Char.isDigit = true :=
    List.all_eq_true.mpr fun _ mem => isDigit_of_mem_padded mem
  unfold number?
  simp only [List.take_left' length, List.drop_left' length, length, digits, ofDigits_padded,
    and_self, if_true]

theorem after?_cons (c : Char) (rest : List Char) : after? c (c :: rest) = some rest :=
  if_pos rfl

/-- A fraction of at most nine digits is read up to the next character that is no digit. -/
theorem fraction?_padded {width n : Nat} (pos : 0 < width) (le_nine : width ≤ 9)
    (small : n < 10 ^ width) {c : Char} (other : c.isDigit = false) (rest : List Char) :
    fraction? ('.' :: (padded width n ++ c :: rest)) =
      some (n * 10 ^ (9 - width), c :: rest) := by
  have length := length_padded pos small
  have digits : ∀ d ∈ padded width n, d.isDigit = true := fun _ => isDigit_of_mem_padded
  have stops : ¬ c.isDigit = true := by simp [other]
  have front : (padded width n ++ c :: rest).takeWhile Char.isDigit = padded width n := by
    rw [List.takeWhile_append_of_pos digits, List.takeWhile_cons_of_neg stops, List.append_nil]
  have back : (padded width n ++ c :: rest).dropWhile Char.isDigit = c :: rest := by
    rw [List.dropWhile_append_of_pos digits, List.dropWhile_cons_of_neg stops]
  have kept : (padded width n).take 9 = padded width n := List.take_of_length_le (by omega)
  have nonempty : (padded width n).isEmpty = false := by
    rw [List.isEmpty_eq_false_iff, ← List.length_pos_iff]
    omega
  unfold fraction?
  simp only [front, back, kept, nonempty, length, ofDigits_padded]
  rfl

theorem exists_dateText_eq_cons {d : Date} (fourDigits : 0 ≤ d.year ∧ d.year ≤ 9999) :
    ∃ first rest, first.isDigit = true ∧ dateText d = first :: rest := by
  have length : (padded 4 d.year.toNat).length = 4 := length_padded (by decide) (by omega)
  cases year : padded 4 d.year.toNat with
  | nil => simp [year] at length
  | cons first digits =>
    have digit : first.isDigit = true := isDigit_of_mem_padded (year ▸ List.mem_cons_self)
    refine ⟨first, digits ++ '-' :: padded 2 d.month ++ '-' :: padded 2 d.day, digit, ?_⟩
    rw [dateText, yearText, if_pos fourDigits, year]
    rfl

/-! ## Complete texts -/

/-- A date and a clock are read back before a fraction and an offset are looked for. -/
theorem instant?_fields {d : Date} (fourDigits : 0 ≤ d.year ∧ d.year ≤ 9999) (valid : d.Valid)
    {hour minute second : Nat} (hour_le : hour ≤ 23) (minute_le : minute ≤ 59)
    (second_le : second ≤ 60) (rest : List Char) :
    instant? (dateText d ++ 'T' :: (padded 2 hour ++ ':' :: (padded 2 minute ++
      ':' :: (padded 2 second ++ rest)))) =
      (do
        let (nanos, rest) ← fraction? rest
        let offset ← offset? rest
        Instant.ofParts?
          (d.toDays * 86400 + hour * 3600 + minute * 60 + min second 59 - offset)
          (nanos + (second - 59) * 1000000000)) := by
  have year : (d.year.toNat : Int) = d.year := Int.toNat_of_nonneg fourDigits.1
  have month_le : d.month ≤ 12 := valid.2.1
  have day_le : d.day ≤ 31 := Nat.le_trans valid.2.2.2 (Date.daysInMonth_le _ _)
  have separates : isSeparator 'T' = true := rfl
  have fits : d.Valid ∧ hour ≤ 23 ∧ minute ≤ 59 ∧ second ≤ 60 :=
    ⟨valid, hour_le, minute_le, second_le⟩
  unfold instant?
  simp only [dateText, yearText, if_pos fourDigits, List.append_assoc, List.cons_append]
  -- field by field, in the order in which they are read
  rw [number?_padded (by decide) (by omega)]
  simp only [Option.bind_eq_bind, Option.bind_some, after?_cons]
  rw [number?_padded (by decide) (by omega)]
  simp only [Option.bind_some, after?_cons]
  rw [number?_padded (by decide) (by omega)]
  simp only [Option.bind_some, List.head?_cons, separates, if_true, List.drop_succ_cons,
    List.drop_zero]
  rw [number?_padded (by decide) (by omega)]
  simp only [Option.bind_some, after?_cons]
  rw [number?_padded (by decide) (by omega)]
  simp only [Option.bind_some, after?_cons]
  rw [number?_padded (by decide) (by omega)]
  simp only [Option.bind_some, year, if_pos fits]

theorem utcText_eq (t : Instant) : utcText t =
    dateText (Date.ofDays (t.seconds / 86400)) ++
      'T' :: (padded 2 ((t.seconds % 86400).toNat / 3600) ++
        ':' :: (padded 2 ((t.seconds % 86400).toNat / 60 % 60) ++
          ':' :: (padded 2 ((t.seconds % 86400).toNat % 60 + t.nanos / 1000000000) ++
            '.' :: (padded 3 (t.nanos % 1000000000 / 1000000) ++ ['Z'])))) := by
  simp only [utcText, List.append_assoc, List.cons_append]

/-- A leap second is read back too, as long as it follows the last second of a minute. -/
theorem instant?_utcText {t : Instant}
    (fourDigits : 0 ≤ (Date.ofDays (t.seconds / 86400)).year ∧
      (Date.ofDays (t.seconds / 86400)).year ≤ 9999)
    (leap : 1000000000 ≤ t.nanos → t.seconds % 60 = 59) :
    instant? (utcText t) = some t.truncated := by
  have nanos_lt := t.nanos_lt
  -- second 60 is read as a second of nanoseconds after second 59
  have seconds : t.seconds / 86400 * 86400 + ((t.seconds % 86400).toNat / 3600 : Nat) * 3600 +
      ((t.seconds % 86400).toNat / 60 % 60 : Nat) * 60 +
      (min ((t.seconds % 86400).toNat % 60 + t.nanos / 1000000000) 59 : Nat) - 0 = t.seconds := by
    omega
  have nanos : t.nanos % 1000000000 / 1000000 * 10 ^ (9 - 3) +
      ((t.seconds % 86400).toNat % 60 + t.nanos / 1000000000 - 59) * 1000000000 =
      t.nanos / 1000000 * 1000000 := by
    omega
  have reached : -8334601228800 ≤ t.seconds ∧ t.seconds ≤ 8210266876799 ∧
      t.nanos / 1000000 * 1000000 < 2000000000 :=
    ⟨t.first_le, t.le_last, by omega⟩
  rw [utcText_eq, instant?_fields fourDigits (Date.valid_ofDays _) (by omega) (by omega) (by omega),
    fraction?_padded (by decide) (by decide) (by omega) rfl]
  simp only [Option.bind_eq_bind, Option.bind_some, offset?, Date.toDays_ofDays, seconds, nanos]
  exact dif_pos reached

end Rfc3339

/-! ## Timestamps -/

namespace Timestamp

theorem ne_of_isDigit {c d : Char} (digit : c.isDigit = true) (other : d.isDigit = false) :
    c ≠ d := by
  intro same
  rw [same, other] at digit
  cases digit

/-- A text that begins with a digit has no sign, so nothing but digits makes it a number. -/
theorem decimal?_of_digit {first : Char} (digit : first.isDigit = true) (cs : List Char) :
    decimal? (first :: cs) =
      if cs.all Char.isDigit = true then Millis.ofInt? (Decimal.ofDigits (first :: cs))
      else none := by
  have noMinus : first ≠ '-' := ne_of_isDigit digit rfl
  have noPlus : first ≠ '+' := ne_of_isDigit digit rfl
  simp [decimal?, digit, noMinus, noPlus]

/-- A text that begins with a date is no number, since it has a dash behind its year. -/
theorem instant?_dateText {d : Date} (fourDigits : 0 ≤ d.year ∧ d.year ≤ 9999) {rest : List Char}
    (ends : ∀ c ∈ (Rfc3339.dateText d ++ rest).getLast?, Text.isBlank c = false) :
    instant? (String.ofList (Rfc3339.dateText d ++ rest)) =
      Rfc3339.instant? (Rfc3339.dateText d ++ rest) := by
  have dash : '-' ∈ Rfc3339.dateText d := by simp [Rfc3339.dateText]
  obtain ⟨first, date, digit, text⟩ := Rfc3339.exists_dateText_eq_cons fourDigits
  rw [text] at dash
  rw [text, List.cons_append] at ends ⊢
  have notDigits : ¬ (date ++ rest).all Char.isDigit = true := by
    intro all
    rcases List.mem_cons.mp dash with same | inside
    · exact ne_of_isDigit digit rfl same.symm
    · have none := List.all_eq_true.mp all '-' (List.mem_append_left rest inside)
      cases none
  have begins : ∀ c ∈ (first :: (date ++ rest)).head?, Text.isBlank c = false := by
    intro c isFirst
    cases isFirst
    exact Text.isBlank_of_isDigit digit
  unfold instant?
  simp only [String.toList_ofList, Text.trim_eq_self begins ends, decimal?_of_digit digit,
    if_neg notDigits]

end Timestamp

/-! ## The cutoff of a query -/

namespace Backend.Query

/-- Read back as a time of the backend, the cutoff of a query is the instant it was written from,
rounded down to milliseconds. -/
theorem since_read_back (t : Instant)
    (fourDigits : 0 ≤ (Date.ofDays (t.seconds / 86400)).year ∧
      (Date.ofDays (t.seconds / 86400)).year ≤ 9999)
    (noLeap : t.nanos < 1000000000) :
    Timestamp.millis? (sinceText t) = some t.toMillis ∧
      t.toMillis.count = (t.seconds * 1000000000 + t.nanos) / 1000000 := by
  constructor
  · have read := Rfc3339.instant?_utcText fourDigits (by omega)
    have ends : ∀ c ∈ (Rfc3339.utcText t).getLast?, Text.isBlank c = false := by
      intro c isLast
      simp only [Rfc3339.utcText, List.getLast?_concat, Option.mem_some] at isLast
      subst isLast
      rfl
    rw [Rfc3339.utcText_eq] at read ends
    rw [Timestamp.millis?, sinceText, Rfc3339.utcText_eq,
      Timestamp.instant?_dateText fourDigits ends, read, Option.map_some,
      Instant.toMillis_truncated]
  · simp only [Instant.toMillis]
    omega

/-- A nanosecond before 1970. -/
def lastOf1969 : Instant := ⟨-1, 999999999, by decide, by decide, by decide⟩

theorem since_read_back_lastOf1969 :
    (Date.ofDays (lastOf1969.seconds / 86400)).year = 1969 ∧ lastOf1969.nanos < 1000000000 ∧
      sinceText lastOf1969 = "1969-12-31T23:59:59.999Z" ∧ lastOf1969.toMillis.count = -1 ∧
      Timestamp.millis? (sinceText lastOf1969) = some lastOf1969.toMillis :=
  ⟨by decide, by decide, by decide +kernel, by decide,
    (since_read_back lastOf1969 (by decide) (by decide)).1⟩

end Backend.Query

end HouseholdDashboard
