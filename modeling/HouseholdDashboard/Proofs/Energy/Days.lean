import HouseholdDashboard.Energy
import HouseholdDashboard.Proofs.Time.DayText
import Mathlib.Data.List.Induction
import Mathlib.Data.List.Nodup

/-!
# What the daily totals are

Samples are counted one after the other, each in the total of its local day.  What that comes to is
said without the order in which totals change (`tally_eq`): one total for each day, in the order in
which the days come up, with the sums of the samples of that day.  Since no two dates have the same
text, samples are counted together exactly if their local dates are the same.

Reading the local times is all that can fail, and the first one that cannot be read is at fault,
whatever is made of the others (`foldlM_localTime_eq`).
-/

namespace HouseholdDashboard

namespace EnergySample

/-- Whether the time of a sample can be read. -/
def isTimed (x : EnergySample) : Bool := (Timestamp.instant? x.time).isSome

/-- The local date of a sample, if its time can be read. -/
def date? (zone : Zone) (x : EnergySample) : Option Date :=
  (Timestamp.instant? x.time).map fun t => (zone.localTime t).date

/-- The text of the local date of a sample, if its time can be read. -/
def day? (zone : Zone) (x : EnergySample) : Option String :=
  (x.date? zone).map Display.dayText

section

variable {zone : Zone} {x y : EnergySample}

theorem day?_eq_iff : x.day? zone = y.day? zone ↔ x.date? zone = y.date? zone :=
  (Option.map_injective Display.dayText_injective).eq_iff

theorem exists_day? (zone : Zone) (timed : x.isTimed = true) : ∃ day, x.day? zone = some day := by
  obtain ⟨t, read⟩ := Option.isSome_iff_exists.mp timed
  exact ⟨_, by rw [day?, date?, read]; rfl⟩

/-! ## Reading local times -/

/-- A fold over samples that reads their local times fails for the first one that cannot be read,
and otherwise does what it does with the times. -/
theorem foldlM_localTime_eq {samples : List EnergySample} {step : β → EnergySample → LocalTime → β}
    {start : β} :
    samples.foldlM (fun b x => do
      let t ← x.localTime zone
      return step b x t) start =
    match samples.find? (!·.isTimed) with
    | some x => .error (.badTimestamp x.id x.time)
    | none => .ok (samples.foldl (fun b x =>
        match Timestamp.instant? x.time with
        | some t => step b x (zone.localTime t)
        | none => b) start) := by
  induction samples generalizing start with
  | nil => rfl
  | cons x samples ih =>
    rw [List.foldlM_cons, List.foldl_cons]
    cases read : Timestamp.instant? x.time with
    | none =>
      rw [List.find?_cons_of_pos (by simp [isTimed, read]), localTime, read]
      rfl
    | some t =>
      rw [List.find?_cons_of_neg (by simp [isTimed, read]), localTime, read]
      exact ih

theorem foldlM_localTime_eq_error_iff {samples : List EnergySample}
    {step : β → EnergySample → LocalTime → β} {start : β} {fault : DataFault} :
    samples.foldlM (fun b x => do
      let t ← x.localTime zone
      return step b x t) start = .error fault ↔
    ∃ x, samples.find? (!·.isTimed) = some x ∧ fault = .badTimestamp x.id x.time := by
  rw [foldlM_localTime_eq]
  cases samples.find? (!·.isTimed) with
  | none =>
    constructor
    · intro failed
      cases failed
    · rintro ⟨x, found, -⟩
      cases found
  | some x =>
    constructor
    · intro failed
      cases failed
      exact ⟨x, rfl, rfl⟩
    · rintro ⟨x', found, rfl⟩
      cases found
      rfl

end

end EnergySample

/-! ## Days in the order in which they come up -/

section

variable {α : Type} [DecidableEq α]

theorem eraseDups_concat (xs : List α) (x : α) :
    (xs ++ [x]).eraseDups =
      if x ∈ xs.eraseDups then xs.eraseDups else xs.eraseDups ++ [x] := by
  rw [List.eraseDups_append]
  by_cases seen : x ∈ xs
  · have nothing : [x].removeAll xs = [] := by simp [List.removeAll, seen]
    rw [if_pos (List.mem_eraseDups.mpr seen), nothing, List.eraseDups_nil, List.append_nil]
  · have all : [x].removeAll xs = [x] := by simp [List.removeAll, seen]
    rw [if_neg fun mem => seen (List.mem_eraseDups.mp mem), all, List.eraseDups_cons]
    rfl

theorem nodup_eraseDups (xs : List α) : xs.eraseDups.Nodup := by
  induction xs using List.reverseRecOn with
  | nil => exact List.nodup_nil
  | append_singleton xs x ih =>
    rw [eraseDups_concat]
    by_cases seen : x ∈ xs.eraseDups
    · rw [if_pos seen]
      exact ih
    · rw [if_neg seen, ← List.concat_eq_append]
      exact ih.concat seen

end

namespace DayTotal

/-- The samples of a day, in their order. -/
def members (zone : Zone) (samples : List EnergySample) (day : String) : List EnergySample :=
  samples.filter fun x => x.day? zone = some day

/-- The sum from zero on, one term after the other. -/
def sum (xs : List Float) : Float := xs.foldl (· + ·) 0

/-- The total of all samples of a day. -/
def ofDay (zone : Zone) (samples : List EnergySample) (day : String) : DayTotal :=
  ⟨day, sum ((members zone samples day).map (·.used)),
    sum ((members zone samples day).map (·.exported))⟩

/-- The texts of the days of samples, each where it first comes up. -/
def days (zone : Zone) (samples : List EnergySample) : List String :=
  (samples.filterMap (·.day? zone)).eraseDups

/-! ## One more sample -/

/-- A total with one more sample in it. -/
def plus (t : DayTotal) (x : EnergySample) : DayTotal :=
  ⟨t.day, t.used + x.used, t.exported + x.exported⟩

/-- Counting a sample changes the total of its day, which is put at the end if the day is new. -/
theorem add_map {labels : List String} {total : String → DayTotal} {day : String}
    {x : EnergySample} (labelled : ∀ d, (total d).day = d) (distinct : labels.Nodup)
    (empty : day ∉ labels → total day = ⟨day, 0, 0⟩) :
    add day x (labels.map total) =
      (if day ∈ labels then labels else labels ++ [day]).map fun d =>
        if d = day then (total d).plus x else total d := by
  induction labels with
  | nil => simp [add, plus, empty]
  | cons d labels ih =>
    rw [List.nodup_cons] at distinct
    rw [List.map_cons, add, labelled]
    by_cases here : d = day
    · subst here
      -- the label comes up only once, so no later total changes
      have others : labels.map (fun d' => if d' = d then (total d').plus x else total d') =
          labels.map total := by
        refine List.map_congr_left fun d' mem => if_neg ?_
        rintro rfl
        exact distinct.1 mem
      rw [if_pos rfl, if_pos List.mem_cons_self, List.map_cons, others, if_pos rfl]
      simp only [plus, labelled]
    · have later := ih distinct.2 fun new => empty fun mem =>
        (List.mem_cons.mp mem).elim (fun same => here same.symm) new
      rw [if_neg here, later]
      by_cases seen : day ∈ labels
      · rw [if_pos seen, if_pos (List.mem_cons_of_mem d seen), List.map_cons, if_neg here]
      · have new : day ∉ d :: labels := fun mem =>
          (List.mem_cons.mp mem).elim (fun same => here same.symm) seen
        rw [if_neg seen, if_neg new, List.cons_append, List.map_cons, if_neg here]

section

variable {zone : Zone} {samples : List EnergySample} {x : EnergySample} {day : String}

theorem members_concat :
    members zone (samples ++ [x]) day =
      if x.day? zone = some day then members zone samples day ++ [x]
      else members zone samples day := by
  by_cases here : x.day? zone = some day
  · simp [members, here]
  · simp [members, here]

theorem ofDay_concat :
    ofDay zone (samples ++ [x]) day =
      if x.day? zone = some day then (ofDay zone samples day).plus x
      else ofDay zone samples day := by
  unfold ofDay
  rw [members_concat]
  by_cases here : x.day? zone = some day
  · simp only [if_pos here, List.map_append, List.map_cons, List.map_nil, sum, List.foldl_append,
      List.foldl_cons, List.foldl_nil, plus]
  · simp only [if_neg here]

theorem mem_days : day ∈ days zone samples ↔ ∃ x ∈ samples, x.day? zone = some day := by
  rw [days, List.mem_eraseDups, List.mem_filterMap]

theorem ofDay_of_not_mem (new : day ∉ days zone samples) :
    ofDay zone samples day = ⟨day, 0, 0⟩ := by
  have none : members zone samples day = [] := by
    rw [members, List.filter_eq_nil_iff]
    intro x mem here
    exact new (mem_days.mpr ⟨x, mem, of_decide_eq_true here⟩)
  rw [ofDay, none]
  rfl

theorem days_concat :
    days zone (samples ++ [x]) =
      match x.day? zone with
      | some day =>
        if day ∈ days zone samples then days zone samples else days zone samples ++ [day]
      | none => days zone samples := by
  unfold days
  rw [List.filterMap_append]
  cases here : x.day? zone with
  | none => simp [here]
  | some day =>
    have last : [x].filterMap (·.day? zone) = [day] := by simp [here]
    rw [last, eraseDups_concat]

end

/-! ## All samples -/

/-- The totals of those samples whose times can be read. -/
def tally (zone : Zone) (samples : List EnergySample) : List DayTotal :=
  samples.foldl (fun totals x =>
    match Timestamp.instant? x.time with
    | some t => add (Display.dayText (zone.localTime t).date) x totals
    | none => totals) []

/-- There is one total for each day, in the order in which the days come up, and the samples of the
day are in it. -/
theorem tally_eq (zone : Zone) (samples : List EnergySample) :
    tally zone samples = (days zone samples).map (ofDay zone samples) := by
  -- on the samples from the end, since `add` is given the totals of all that came before
  induction samples using List.reverseRecOn with
  | nil => rfl
  | append_singleton samples x ih =>
    have more : tally zone (samples ++ [x]) =
        match x.day? zone with
        | some day => add day x (tally zone samples)
        | none => tally zone samples := by
      unfold tally EnergySample.day? EnergySample.date?
      rw [List.foldl_append, List.foldl_cons, List.foldl_nil]
      cases Timestamp.instant? x.time <;> rfl
    rw [more, ih, days_concat]
    cases here : x.day? zone with
    | none =>
      refine List.map_congr_left fun d _ => ?_
      rw [ofDay_concat, here, if_neg (by simp)]
    | some day =>
      have distinct : (days zone samples).Nodup := nodup_eraseDups _
      dsimp only
      rw [add_map (fun d => rfl) distinct ofDay_of_not_mem]
      refine List.map_congr_left fun d _ => ?_
      rw [ofDay_concat, here]
      by_cases same : d = day
      · subst same
        rw [if_pos rfl, if_pos rfl]
      · rw [if_neg same, if_neg fun same' => same (Option.some.inj same').symm]

/-- Whether totals sum up samples by local day. -/
structure SumsUp (zone : Zone) (samples : List EnergySample) (totals : List DayTotal) : Prop where
  timed : ∀ x ∈ samples, x.isTimed = true
  /-- The days are labelled in the order in which they come up. -/
  labels : totals.map (·.day) = (samples.filterMap (·.day? zone)).eraseDups
  distinct : (totals.map (·.day)).Nodup
  /-- Samples are in one total exactly if they are of one date. -/
  together : ∀ x ∈ samples, ∀ y ∈ samples,
    (∃ t ∈ totals, x ∈ members zone samples t.day ∧ y ∈ members zone samples t.day) ↔
      x.date? zone = y.date? zone
  used : ∀ t ∈ totals, t.used = sum ((members zone samples t.day).map (·.used))
  exported : ∀ t ∈ totals, t.exported = sum ((members zone samples t.day).map (·.exported))

namespace SumsUp

variable {zone : Zone} {samples : List EnergySample} {totals : List DayTotal}

theorem ofTally (timed : ∀ x ∈ samples, x.isTimed = true) :
    SumsUp zone samples (tally zone samples) := by
  have labels : (tally zone samples).map (·.day) = days zone samples := by
    rw [tally_eq, List.map_map]
    exact List.map_id _
  have ofDay_of_mem : ∀ t ∈ tally zone samples, t = ofDay zone samples t.day := by
    intro t mem
    rw [tally_eq] at mem
    obtain ⟨day, -, rfl⟩ := List.mem_map.mp mem
    rfl
  refine ⟨timed, labels, labels ▸ nodup_eraseDups _, fun x x_mem y y_mem => ?_, ?_, ?_⟩
  · rw [← EnergySample.day?_eq_iff]
    constructor
    · rintro ⟨t, -, x_in, y_in⟩
      rw [of_decide_eq_true (List.mem_filter.mp x_in).2,
        of_decide_eq_true (List.mem_filter.mp y_in).2]
    · intro same
      obtain ⟨day, here⟩ := EnergySample.exists_day? zone (timed x x_mem)
      have mem : day ∈ (tally zone samples).map (·.day) := by
        rw [labels]
        exact mem_days.mpr ⟨x, x_mem, here⟩
      obtain ⟨t, t_mem, rfl⟩ := List.mem_map.mp mem
      refine ⟨t, t_mem, List.mem_filter.mpr ⟨x_mem, decide_eq_true here⟩,
        List.mem_filter.mpr ⟨y_mem, decide_eq_true (same ▸ here)⟩⟩
  · intro t mem
    rw [ofDay_of_mem t mem]
    rfl
  · intro t mem
    rw [ofDay_of_mem t mem]
    rfl

/-- Only one list of totals sums up given samples. -/
theorem eq_tally (sums : SumsUp zone samples totals) : totals = tally zone samples := by
  have ofDay_of_mem : ∀ t ∈ totals, ofDay zone samples t.day = t := by
    intro t mem
    rw [ofDay, ← sums.used t mem, ← sums.exported t mem]
  calc totals = totals.map (fun t => ofDay zone samples t.day) := by
        rw [List.map_congr_left ofDay_of_mem, List.map_id']
    _ = (totals.map (·.day)).map (ofDay zone samples) := by
        rw [List.map_map]
        rfl
    _ = tally zone samples := by
        rw [sums.labels, tally_eq]
        rfl

end SumsUp

/-- If the times of all samples can be read, nothing keeps the totals from being counted. -/
theorem ofSamples_of_timed {zone : Zone} {samples : List EnergySample}
    (timed : ∀ x ∈ samples, x.isTimed = true) :
    ofSamples zone samples = .ok (tally zone samples) := by
  have none : samples.find? (!·.isTimed) = none := by
    simpa only [List.find?_eq_none, Bool.not_eq_true', Bool.not_eq_false] using timed
  have counted : ofSamples zone samples = _ := EnergySample.foldlM_localTime_eq
  rw [counted, none]
  rfl

theorem timed_of_ofSamples {zone : Zone} {samples : List EnergySample} {totals : List DayTotal}
    (counted : ofSamples zone samples = .ok totals) : ∀ x ∈ samples, x.isTimed = true := by
  cases first : samples.find? (!·.isTimed) with
  | none => simpa only [List.find?_eq_none, Bool.not_eq_true', Bool.not_eq_false] using first
  | some x =>
    have failed : ofSamples zone samples = .error _ :=
      EnergySample.foldlM_localTime_eq_error_iff.mpr ⟨x, first, rfl⟩
    rw [failed] at counted
    cases counted

/-- There are daily totals exactly if the times of all samples can be read.  They then sum up the
samples by local day, and nothing else does.  Otherwise the first sample whose time cannot be read
is at fault, as it is for the value of what was exported, whatever the tariff. -/
theorem totals_by_local_day (zone : Zone) (samples : List EnergySample) :
    ((∃ totals, ofSamples zone samples = .ok totals) ↔ ∀ x ∈ samples, x.isTimed = true) ∧
    (∀ totals, ofSamples zone samples = .ok totals ↔ SumsUp zone samples totals) ∧
    (∀ fault, ofSamples zone samples = .error fault ↔
      ∃ x, samples.find? (!·.isTimed) = some x ∧ fault = .badTimestamp x.id x.time) ∧
    ∀ (tariff : Tariff) fault, tariff.exportValue zone samples = .error fault ↔
      ofSamples zone samples = .error fault := by
  refine ⟨⟨?_, ?_⟩, fun totals => ⟨?_, ?_⟩, fun fault => ?_, fun tariff fault => ?_⟩
  · rintro ⟨totals, counted⟩
    exact timed_of_ofSamples counted
  · intro timed
    exact ⟨_, ofSamples_of_timed timed⟩
  · intro counted
    have timed := timed_of_ofSamples counted
    rw [ofSamples_of_timed timed] at counted
    cases counted
    exact SumsUp.ofTally timed
  · intro sums
    rw [ofSamples_of_timed sums.timed, sums.eq_tally]
  · exact EnergySample.foldlM_localTime_eq_error_iff
  · calc tariff.exportValue zone samples = .error fault ↔
          ∃ x, samples.find? (!·.isTimed) = some x ∧ fault = .badTimestamp x.id x.time :=
        EnergySample.foldlM_localTime_eq_error_iff
      _ ↔ ofSamples zone samples = .error fault :=
        EnergySample.foldlM_localTime_eq_error_iff.symm

end DayTotal

end HouseholdDashboard
