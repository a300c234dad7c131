import HouseholdDashboard.Backend.Reply
import HouseholdDashboard.Energy
import HouseholdDashboard.Proofs.Json.Text
import HouseholdDashboard.Proofs.Time.Rfc3339
import HouseholdDashboard.Series

/-!
# A count of milliseconds is the same time as a number and as text

The decimal text of a count is read as that count, whatever blanks stand around it
(`Timestamp.decimal?_toString`, `Timestamp.instant?_countText`), and a count that the calendar does
not reach is not taken for a time in another notation.  So the two ways in which the backend may
write a count come to one time, or to a fault that shows the text as it was sent
(`Backend.WrittenTime.same_as_number_and_text`).
-/

namespace HouseholdDashboard

namespace Timestamp

/-! ## Decimal counts -/

/-- A count of 64 bits is read from its decimal text. -/
theorem decimal?_toString (n : Millis) : decimal? (toString n.count).toList = some n := by
  have digits := Decimal.all_isDigit_digits n.count.natAbs
  have nonempty : (Decimal.digits n.count.natAbs).isEmpty = false :=
    List.isEmpty_eq_false_iff.mpr (Decimal.digits_ne_nil _)
  rw [Decimal.toList_toString_int]
  by_cases negative : n.count < 0
  · have same : -(n.count.natAbs : Int) = n.count := by omega
    rw [if_pos negative]
    simp only [decimal?, nonempty, digits, Bool.not_false, Bool.and_self, if_true,
      Decimal.ofDigits_digits, same]
    exact Millis.ofInt?_eq_some_iff.mpr rfl
  · have same : (n.count.natAbs : Int) = n.count := by omega
    rw [if_neg negative]
    cases text : Decimal.digits n.count.natAbs with
    | nil => exact absurd text (Decimal.digits_ne_nil _)
    | cons first rest =>
      rw [text, List.all_cons, Bool.and_eq_true] at digits
      rw [decimal?_of_digit digits.1, if_pos digits.2, ← text, Decimal.ofDigits_digits, same]
      exact Millis.ofInt?_eq_some_iff.mpr rfl

/-- There is no blank in a decimal text. -/
theorem isBlank_of_mem_toString {n : Int} {c : Char} (mem : c ∈ (toString n).toList) :
    Text.isBlank c = false := by
  rw [Decimal.toList_toString_int] at mem
  by_cases negative : n < 0
  · rw [if_pos negative] at mem
    rcases List.mem_cons.mp mem with rfl | digit
    · rfl
    · exact Text.isBlank_of_isDigit (Decimal.isDigit_of_mem_digits digit)
  · rw [if_neg negative] at mem
    exact Text.isBlank_of_isDigit (Decimal.isDigit_of_mem_digits mem)

/-- A count of milliseconds in decimal, with some text before and after it. -/
def countText (before : List Char) (n : Millis) (after : List Char) : String :=
  String.ofList (before ++ ((toString n.count).toList ++ after))

variable {before after : List Char} (n : Millis)

/-- Among blanks, a count names its own instant or none at all. -/
theorem instant?_countText (blankBefore : ∀ c ∈ before, Text.isBlank c = true)
    (blankAfter : ∀ c ∈ after, Text.isBlank c = true) :
    instant? (countText before n after) = Instant.ofMillis? n.count := by
  have bare : Text.trim (toString n.count).toList = (toString n.count).toList := by
    apply Text.trim_eq_self
    · intro c first
      exact isBlank_of_mem_toString (List.mem_of_mem_head? first)
    · intro c last
      exact isBlank_of_mem_toString (List.mem_of_getLast? last)
  unfold instant?
  simp only [countText, String.toList_ofList, Text.trim_surrounded blankBefore blankAfter, bare,
    decimal?_toString]

theorem millis?_countText (blankBefore : ∀ c ∈ before, Text.isBlank c = true)
    (blankAfter : ∀ c ∈ after, Text.isBlank c = true) :
    millis? (countText before n after) =
      if -8334601228800000 ≤ n.count ∧ n.count ≤ 8210266876799999 then some n else none := by
  rw [millis?, instant?_countText n blankBefore blankAfter]
  cases named : Instant.ofMillis? n.count with
  | none =>
    rw [if_neg (Instant.ofMillis?_eq_none_iff.mp named)]
    rfl
  | some t =>
    rw [if_pos (Instant.ofMillis?_isSome_iff.mp (Option.isSome_of_eq_some named)),
      Option.map_some]
    exact congrArg some (Millis.ext (Instant.toMillis_of_ofMillis? named))

end Timestamp

/-! ## Times in a document -/

namespace Backend.WrittenTime

theorem readText_number (n : Millis) :
    Json.readText read (toString n.count) = .ok (.count n) := by
  have document : Json.Draft.ofWholeText (toString n.count) =
      .number (some (.whole n.count)) := by
    rw [← Json.Scalar.spelled_count n]
    exact Json.Scalar.ofWholeText_printed (.whole n.count)
  have fits : Millis.ofInt? n.count = some n := Millis.ofInt?_eq_some_iff.mpr rfl
  simp only [Json.readText, document, read, fits]

theorem readText_string (s : String) : Json.readText read (Json.quoteText s) = .ok (.text s) := by
  have document : Json.Draft.ofWholeText (Json.quoteText s) = .string (some s) :=
    Json.Scalar.ofWholeText_printed (.text s)
  simp only [Json.readText, document, read]

/-- A count is written as text, or as a number, which is kept as text without blanks. -/
theorem shown_eq_countText {before after : List Char} {n : Millis} {w : WrittenTime}
    (written : w ∈ [count n, text (Timestamp.countText before n after)]) :
    w.shown = Timestamp.countText [] n [] ∨ w.shown = Timestamp.countText before n after := by
  simp only [List.mem_cons, List.not_mem_nil, or_false] at written
  rcases written with rfl | rfl
  · left
    simp [shown, Timestamp.countText]
  · right
    rfl

/-- However a count is written, it is the same time. -/
theorem millis?_shown {before after : List Char} {n : Millis} {w : WrittenTime}
    (blankBefore : ∀ c ∈ before, Text.isBlank c = true)
    (blankAfter : ∀ c ∈ after, Text.isBlank c = true)
    (written : w ∈ [count n, text (Timestamp.countText before n after)]) :
    Timestamp.millis? w.shown =
      if -8334601228800000 ≤ n.count ∧ n.count ≤ 8210266876799999 then some n else none := by
  rcases shown_eq_countText written with bare | surrounded
  · rw [bare]
    exact Timestamp.millis?_countText n (by simp) (by simp)
  · rw [surrounded]
    exact Timestamp.millis?_countText n blankBefore blankAfter

/-- A count of milliseconds may be sent as a number, or as text with blanks around it.  Either way
it is the time of an event, of a sample of the panels or of one of the meter, if the calendar
reaches it.  Otherwise the text as it was sent is at fault there, on the event or the sample that it
stands on. -/
theorem same_as_number_and_text (n : Millis) {before after : List Char}
    (blankBefore : ∀ c ∈ before, Text.isBlank c = true)
    (blankAfter : ∀ c ∈ after, Text.isBlank c = true) :
    let raw := Timestamp.countText before n after
    let reached := -8334601228800000 ≤ n.count ∧ n.count ≤ 8210266876799999
    Json.readText read (toString n.count) = .ok (.count n) ∧
    Json.readText read (Json.quoteText raw) = .ok (.text raw) ∧
    Timestamp.millis? raw = (if reached then some n else none) ∧
    (∀ w ∈ [count n, text raw],
      (∀ (zone : Zone) (category : Category) (r : Report), r.time = w →
        Mark.ofEvent zone (r.event category) =
          if reached then
            .ok ((r.event category).state.kind?.map fun kind =>
              ⟨r.id, r.device, kind, n, Display.markTime zone n⟩)
          else .error (.badTimestamp r.id w.shown)) ∧
      ∀ r : SolarReading, r.time = w →
        r.sample =
          if reached then .ok ⟨n, r.wattHours, r.uvLevel⟩
          else .error (.badTimestamp "solar.history" w.shown)) ∧
    ∀ (zone : Zone) (x : EnergySample), x.time = raw →
      x.localTime zone =
        match Display.local? zone n with
        | some shown => .ok shown
        | none => .error (.badTimestamp x.id raw) := by
  intro raw reached
  refine ⟨readText_number n, readText_string raw,
    Timestamp.millis?_countText n blankBefore blankAfter, ?_, ?_⟩
  · intro w written
    have read := millis?_shown blankBefore blankAfter written
    constructor
    · rintro zone category r rfl
      unfold Mark.ofEvent
      by_cases inside : reached
      · rw [if_pos inside] at read
        simp only [Report.event, read, if_pos inside]
      · rw [if_neg inside] at read
        simp only [Report.event, read, if_neg inside]
    · rintro r rfl
      unfold SolarReading.sample
      by_cases inside : reached
      · rw [if_pos inside] at read
        simp only [read, if_pos inside]
      · rw [if_neg inside] at read
        simp only [read, if_neg inside]
        rfl
  · intro zone x same
    unfold EnergySample.localTime Display.local?
    rw [same, Timestamp.instant?_countText n blankBefore blankAfter]
    cases Instant.ofMillis? n.count <;> rfl

/-- The calendar's first millisecond. -/
def firstCount : Millis := .saturate (-8334601228800000)

/-- A count that the calendar does not reach. -/
def farCount : Millis := ⟨9000000000000000, by decide, by decide⟩

theorem same_as_number_and_text_edges :
    Timestamp.millis? "\u00a0-8334601228800000\n" = some firstCount ∧
    Json.readText read (Json.quoteText " 9000000000000000\t") = .ok (.text " 9000000000000000\t") ∧
    (SolarReading.mk 0 (.text " 9000000000000000\t") none).sample =
      .error (.badTimestamp "solar.history" " 9000000000000000\t") ∧
    (SolarReading.mk 0 (.count farCount) none).sample =
      .error (.badTimestamp "solar.history" "9000000000000000") := by
  have padded : Timestamp.countText ['\u00a0'] firstCount ['\n'] = "\u00a0-8334601228800000\n" := by
    decide +kernel
  have spaced : Timestamp.countText [' '] farCount ['\t'] = " 9000000000000000\t" := by
    decide +kernel
  have bare : (WrittenTime.count farCount).shown = "9000000000000000" := by decide +kernel
  obtain ⟨-, -, first, -⟩ := same_as_number_and_text firstCount
    (List.forall_mem_singleton.mpr (show Text.isBlank '\u00a0' = true from rfl))
    (List.forall_mem_singleton.mpr (show Text.isBlank '\n' = true from rfl))
  obtain ⟨-, document, -, sites, -⟩ := same_as_number_and_text farCount
    (List.forall_mem_singleton.mpr (show Text.isBlank ' ' = true from rfl))
    (List.forall_mem_singleton.mpr (show Text.isBlank '\t' = true from rfl))
  have beyond : ¬(-8334601228800000 ≤ farCount.count ∧ farCount.count ≤ 8210266876799999) := by
    decide
  have asNumber := (sites (.count farCount) (by simp)).2 (.mk 0 (.count farCount) none) rfl
  rw [padded, if_pos (by decide)] at first
  rw [if_neg beyond, bare] at asNumber
  rw [spaced] at document sites
  have asText := (sites (.text " 9000000000000000\t") (by simp)).2 (.mk 0 _ none) rfl
  rw [if_neg beyond] at asText
  exact ⟨first, document, asText, asNumber⟩

end Backend.WrittenTime

end HouseholdDashboard
