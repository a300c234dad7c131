import HouseholdDashboard.Alarm
import HouseholdDashboard.Proofs.Time.Rfc3339
import Mathlib.Data.List.Basic

/-!
# Local times name their instant

A local time is written with the zone's offset, to the second.  An offset of whole minutes is read
back (`offset?_offsetText`); with it the local fields name the second that they were computed from,
whatever day, month or year the offset has led into (`instant?_localText`).  So an alarm that is
passed on names the second in which it goes off (`Alarm.localTime_read_back`).
-/

namespace HouseholdDashboard

/-! ## Offsets -/

/-- Local clocks are always less than a day from UTC. -/
theorem Zone.offsetAt_lt (zone : Zone) (second : Int) :
    (zone.offsetAt second).natAbs < 86400 := by
  have kept : ∀ (changes : List Change) (first : Int), first.natAbs < 86400 →
      (∀ c ∈ changes, c.offset.natAbs < 86400) →
      (changes.foldl (fun offset c => if c.second ≤ second then c.offset else offset)
        first).natAbs < 86400 := by
    intro changes
    induction changes with
    | nil =>
      intro first within _
      exact within
    | cons c changes ih =>
      intro first within all
      rw [List.foldl_cons]
      apply ih
      · split
        · exact all c List.mem_cons_self
        · exact within
      · intro later mem
        exact all later (List.mem_cons_of_mem c mem)
  exact kept zone.changes zone.first zone.first_lt zone.changes_lt

/-- An instant at the beginning of its second. -/
def Instant.floored (t : Instant) : Instant :=
  ⟨t.seconds, 0, t.first_le, t.le_last, Nat.lt_of_le_of_lt (Nat.zero_le t.nanos) t.nanos_lt⟩

namespace Rfc3339

/-- Hours and minutes are read back behind either sign. -/
theorem offset?_sign {sign : Char} (isSign : sign = '+' ∨ sign = '-') {hours minutes : Nat}
    (hours_le : hours ≤ 23) (minutes_le : minutes ≤ 59) :
    offset? (sign :: (padded 2 hours ++ ':' :: padded 2 minutes)) =
      some (if sign = '+' then (hours * 3600 + minutes * 60 : Int)
        else -(hours * 3600 + minutes * 60)) := by
  have last : number? 2 (padded 2 minutes) = some (minutes, []) := by
    rw [← List.append_nil (padded 2 minutes)]
    exact number?_padded (by decide) (by omega) []
  unfold offset?
  split
  · rename_i zulu
    rw [(List.cons.inj zulu).1] at isSign
    exact absurd isSign (by decide)
  · rename_i zulu
    rw [(List.cons.inj zulu).1] at isSign
    exact absurd isSign (by decide)
  · rename_i first rest same
    obtain ⟨rfl, rfl⟩ := List.cons.inj same
    rw [if_pos (by rw [← or_assoc]; exact .inl isSign),
      number?_padded (by decide) (show hours < 10 ^ 2 by omega)]
    simp only [Option.bind_eq_bind, Option.bind_some, after?_cons, last]
    exact if_pos ⟨rfl, hours_le, minutes_le⟩
  · rename_i none
    cases none

/-- An offset of whole minutes is not rounded, so it is read back. -/
theorem offset?_offsetText {offset : Int} (wholeMinutes : offset % 60 = 0)
    (withinDay : offset.natAbs < 86400) : offset? (offsetText offset) = some offset := by
  have magnitude : (((offset.natAbs + 30) / 60 / 60 : Nat) : Int) * 3600 +
      ((offset.natAbs + 30) / 60 % 60 : Nat) * 60 = offset.natAbs := by omega
  unfold offsetText
  by_cases west : offset < 0
  · simp only [if_pos west, List.cons_append]
    rw [offset?_sign (.inr rfl) (by omega) (by omega), magnitude, if_neg (by decide)]
    congr 1
    omega
  · simp only [if_neg west, List.cons_append]
    rw [offset?_sign (.inl rfl) (by omega) (by omega), magnitude, if_pos rfl]
    congr 1
    omega

/-- No fraction is read where an offset begins. -/
theorem fraction?_offsetText (offset : Int) :
    fraction? (offsetText offset) = some (0, offsetText offset) := by
  unfold offsetText
  by_cases west : offset < 0
  · simp only [if_pos west]
    rfl
  · simp only [if_neg west]
    rfl

/-! ## Complete texts -/

theorem localText_eq (t : LocalTime) : localText t =
    dateText t.date ++ 'T' :: (padded 2 t.hour ++ ':' :: (padded 2 t.minute ++
      ':' :: (padded 2 t.second ++ offsetText t.offset))) := by
  simp only [localText, clockText, LocalTime.hour, LocalTime.minute, LocalTime.second,
    List.append_assoc, List.cons_append]

/-- A local time ends in the minutes of its offset. -/
theorem isDigit_of_getLast?_localText {t : LocalTime} {c : Char}
    (isLast : c ∈ (localText t).getLast?) : c.isDigit = true := by
  have nonempty : padded 2 ((t.offset.natAbs + 30) / 60 % 60) ≠ [] := by
    rw [← List.length_pos_iff, length_padded (by decide) (by omega)]
    decide
  obtain ⟨front, text⟩ : ∃ front, localText t =
      front ++ padded 2 ((t.offset.natAbs + 30) / 60 % 60) := by
    refine ⟨dateText t.date ++ 'T' :: clockText t.secondOfDay ++
      (if t.offset < 0 then '-' else '+') ::
        padded 2 ((t.offset.natAbs + 30) / 60 / 60) ++ [':'], ?_⟩
    simp only [localText, offsetText, List.append_assoc, List.cons_append, List.nil_append]
  rw [text, List.getLast?_append_of_ne_nil _ nonempty] at isLast
  exact isDigit_of_mem_padded (List.mem_of_getLast? isLast)

theorem instant?_localText {zone : Zone} {t : Instant}
    (fourDigits : 0 ≤ (zone.localTime t).date.year ∧ (zone.localTime t).date.year ≤ 9999)
    (wholeMinutes : (zone.localTime t).offset % 60 = 0) :
    instant? (localText (zone.localTime t)) = some t.floored := by
  generalize shown : zone.localTime t = l at fourDigits wholeMinutes ⊢
  have within : l.offset.natAbs < 86400 := by
    rw [← shown]
    exact zone.offsetAt_lt t.seconds
  have day : l.date = Date.ofDays ((t.seconds + l.offset) / 86400) := by
    rw [← shown]
    rfl
  have clock : (l.secondOfDay : Int) = (t.seconds + l.offset) % 86400 := by
    rw [← shown]
    exact Int.toNat_of_nonneg (Int.emod_nonneg _ (by decide))
  have valid : l.date.Valid := by
    rw [day]
    exact Date.valid_ofDays _
  have hour : l.hour = l.secondOfDay / 3600 := rfl
  have minute : l.minute = l.secondOfDay / 60 % 60 := rfl
  have second : l.second = l.secondOfDay % 60 := rfl
  -- the fields add up to what the clocks show, and the offset takes that back to UTC
  have seconds : l.date.toDays * 86400 + l.hour * 3600 + l.minute * 60 +
      (min l.second 59 : Nat) - l.offset = t.seconds := by
    rw [day, Date.toDays_ofDays]
    omega
  have nanos : 0 + (l.second - 59) * 1000000000 = 0 := by omega
  rw [localText_eq, instant?_fields fourDigits valid (by omega) (by omega) (by omega),
    fraction?_offsetText]
  simp only [Option.bind_eq_bind, Option.bind_some, offset?_offsetText wholeMinutes within,
    seconds, nanos]
  exact dif_pos ⟨t.first_le, t.le_last, by decide⟩

end Rfc3339

/-! ## Alarms -/

namespace Alarm

theorem localTimeText_eq (zone : Zone) (trigger : Millis) :
    localTimeText zone trigger =
      match Instant.ofMillis? trigger.count with
      | some t => .ok (String.ofList (Rfc3339.localText (zone.localTime t)))
      | none => .error (.ofCause (.alarmTime trigger.count)) := by
  rw [localTimeText, Display.local?]
  cases Instant.ofMillis? trigger.count <;> rfl

/-- In every zone and every year of four digits, the local time of an alarm is taken as a time of
the backend, and then it is the second in which the alarm goes off; only an offset that is not in
whole minutes would be rounded.  Alarms beyond the calendar, and no others, have no local time. -/
theorem localTime_read_back (zone : Zone) (trigger : Millis) :
    let second := trigger.count / 1000
    let offset := zone.offsetAt second
    let year := (Date.ofDays ((second + offset) / 86400)).year
    let reached := -8334601228800000 ≤ trigger.count ∧ trigger.count ≤ 8210266876799999
    (reached → offset % 60 = 0 → 0 ≤ year → year ≤ 9999 →
      ∃ text t, localTimeText zone trigger = .ok text ∧ Timestamp.instant? text = some t ∧
        t.seconds = second ∧ t.nanos = 0 ∧ t.toMillis.count = 1000 * second) ∧
    (reached → ∃ text, localTimeText zone trigger = .ok text) ∧
    (¬reached → localTimeText zone trigger = .error (.ofCause (.alarmTime trigger.count))) := by
  intro second offset year reached
  rw [localTimeText_eq]
  cases named : Instant.ofMillis? trigger.count with
  | none =>
    have beyond : ¬reached := Instant.ofMillis?_eq_none_iff.mp named
    exact ⟨fun inside => absurd inside beyond, fun inside => absurd inside beyond, fun _ => rfl⟩
  | some t =>
    have inside : reached := Instant.ofMillis?_isSome_iff.mp (Option.isSome_of_eq_some named)
    refine ⟨fun _ wholeMinutes fromYear0 toYear9999 => ?_, fun _ => ⟨_, rfl⟩,
      fun beyond => absurd inside beyond⟩
    have seconds : t.seconds = second := (Instant.parts_of_ofParts? named).1
    have shown : zone.localTime t =
        ⟨Date.ofDays ((second + offset) / 86400), ((second + offset) % 86400).toNat, offset⟩ := by
      rw [Zone.localTime, seconds]
    have fourDigits : 0 ≤ (zone.localTime t).date.year ∧
        (zone.localTime t).date.year ≤ 9999 := by
      rw [shown]
      exact ⟨fromYear0, toYear9999⟩
    have read := Rfc3339.instant?_localText fourDigits (by rw [shown]; exact wholeMinutes)
    refine ⟨_, t.floored, rfl, ?_, seconds, rfl, ?_⟩
    · rw [← read, Rfc3339.localText_eq]
      refine Timestamp.instant?_dateText fourDigits fun c isLast => ?_
      rw [← Rfc3339.localText_eq] at isLast
      exact Text.isBlank_of_isDigit (Rfc3339.isDigit_of_getLast?_localText isLast)
    · simp only [Instant.toMillis, Instant.floored, seconds]
      omega

/-- Clocks in Kathmandu went from the end of 1985 a quarter of an hour into 1986. -/
def kathmandu : Zone :=
  ⟨"Asia/Kathmandu", 20476, [⟨-1577943676, 19800⟩, ⟨504901800, 20700⟩], by decide, by decide⟩

/-- Half a second after that, and a millisecond before 1970. -/
theorem localTime_read_back_kathmandu :
    (∃ t, localTimeText kathmandu ⟨504901800500, by decide, by decide⟩ =
        .ok "1986-01-01T00:15:00+05:45" ∧
      Timestamp.instant? "1986-01-01T00:15:00+05:45" = some t ∧
      t.toMillis.count = 504901800000) ∧
    ∃ t, localTimeText kathmandu ⟨-1, by decide, by decide⟩ = .ok "1970-01-01T05:29:59+05:30" ∧
      Timestamp.instant? "1970-01-01T05:29:59+05:30" = some t ∧ t.toMillis.count = -1000 := by
  have jumped : localTimeText kathmandu ⟨504901800500, by decide, by decide⟩ =
      .ok "1986-01-01T00:15:00+05:45" := by decide +kernel
  have before : localTimeText kathmandu ⟨-1, by decide, by decide⟩ =
      .ok "1970-01-01T05:29:59+05:30" := by decide +kernel
  constructor
  · obtain ⟨text, t, written, named, -, -, count⟩ :=
      (localTime_read_back kathmandu ⟨504901800500, by decide, by decide⟩).1
        (by decide) (by decide) (by decide) (by decide)
    rw [jumped] at written
    cases written
    exact ⟨t, jumped, named, count⟩
  · obtain ⟨text, t, written, named, -, -, count⟩ :=
      (localTime_read_back kathmandu ⟨-1, by decide, by decide⟩).1
        (by decide) (by decide) (by decide) (by decide)
    rw [before] at written
    cases written
    exact ⟨t, before, named, count⟩

end Alarm

end HouseholdDashboard
