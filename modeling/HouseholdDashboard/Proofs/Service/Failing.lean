import HouseholdDashboard.Proofs.Energy.Days
import HouseholdDashboard.Proofs.Session.Frame
import HouseholdDashboard.Proofs.Session.Synced
import HouseholdDashboard.Service.Errand
import HouseholdDashboard.Service.Run

/-!
# Why a call fails

A call on the session fails for one of two reasons: a time in the snapshot that it is answered from
cannot be read (`Snapshot.Spoilt`), or its own fetch failed.  What was being done is added to the
failure of a fetch, but its cause stays (`Call.run_fails`).
-/

namespace HouseholdDashboard

/-- A time in a snapshot that cannot be read, after what it stands on. -/
inductive Snapshot.Spoilt (s : Snapshot) : String → String → Prop
  | event {e : Event} (mem : e ∈ s.events) (bad : Timestamp.instant? e.time = none) :
    Spoilt s e.id e.time
  | energy {x : EnergySample} (mem : x ∈ s.energyHistory)
    (bad : Timestamp.instant? x.time = none) : Spoilt s x.id x.time

theorem Snapshot.Spoilt.instant?_eq_none {s : Snapshot} {source value : String}
    (spoilt : s.Spoilt source value) : Timestamp.instant? value = none := by
  cases spoilt <;> assumption

/-- A failure for a time in a snapshot that cannot be read. -/
def Failure.Blames (f : Failure) (s : Snapshot) : Prop :=
  ∃ source value, f.cause = .data (.badTimestamp source value) ∧ s.Spoilt source value

/-! ## Questions -/

theorem Timestamp.instant?_eq_none {raw : String} (untimed : (millis? raw).isSome = false) :
    instant? raw = none := by
  simpa [millis?] using untimed

/-- Two steps fail as the first does, or as the second does on what the first gave. -/
theorem bind_eq_error {x : Except ε α} {next : α → Except ε β} {e : ε}
    (failed : x >>= next = .error e) : x = .error e ∨ ∃ a, x = .ok a ∧ next a = .error e := by
  cases x with
  | error e' =>
    cases failed
    exact .inl rfl
  | ok a => exact .inr ⟨a, rfl, failed⟩

namespace Session

variable {s : Session} {q : Question} {now : Instant} {fault : DataFault}

theorem marks_eq_error (failed : s.marks = .error fault) :
    ∃ source value, fault = .badTimestamp source value ∧ s.snapshot.Spoilt source value := by
  cases first : s.snapshot.events.find? (!·.isTimed) with
  | none =>
    obtain ⟨marks, read⟩ := exists_marks (s := s) (by simpa using first)
    rw [read] at failed
    cases failed
  | some e =>
    rw [marks_of_untimed first] at failed
    cases failed
    have untimed : e.isTimed = false := by simpa using List.find?_some first
    exact ⟨e.id, e.time, rfl,
      .event (List.mem_of_find?_eq_some first) (Timestamp.instant?_eq_none untimed)⟩

theorem energy_eq_error (failed : s.energy = .error fault) :
    ∃ source value, fault = .badTimestamp source value ∧ s.snapshot.Spoilt source value := by
  suffices first : ∃ x, s.snapshot.energyHistory.find? (!·.isTimed) = some x ∧
      fault = .badTimestamp x.id x.time by
    obtain ⟨x, found, rfl⟩ := first
    have bad : Timestamp.instant? x.time = none := by
      simpa [EnergySample.isTimed] using List.find?_some found
    exact ⟨x.id, x.time, rfl, .energy (List.mem_of_find?_eq_some found) bad⟩
  rcases bind_eq_error failed with days | ⟨days, -, rest⟩
  · exact EnergySample.foldlM_localTime_eq_error_iff.mp days
  · rcases bind_eq_error rest with value | ⟨value, -, done⟩
    · exact EnergySample.foldlM_localTime_eq_error_iff.mp value
    · cases done

end Session

/-- A question that the data does not answer meets a time that cannot be read. -/
theorem Question.answer_eq_data {q : Question} {s : Session} {now : Instant} {fault : DataFault}
    (failed : (q.answer s now).2 = .error (.data fault)) :
    ∃ source value, fault = .badTimestamp source value ∧ s.snapshot.Spoilt source value := by
  cases draws : q.draws with
  | true => exact Session.marks_eq_error (marks_of_answer_eq_data draws failed)
  | false =>
    cases q with
    | timeline | viewport _ | visibility _ => cases draws
    | overview => cases failed
    | energy =>
      refine Session.energy_eq_error ?_
      simp only [answer] at failed
      cases found : s.energy with
      | ok report =>
        rw [found] at failed
        cases failed
      | error fault' =>
        rw [found] at failed
        cases failed
        rfl

/-! ## Calls -/

/-- Why a call failed: a time in the snapshot that its session then has, or its own fetch. -/
def Stage.Fails (out : Outside σ) (world : σ) (s : Session) (f : Failure) : Prop :=
  f.Blames s.snapshot ∨
    ∃ since fetched, (out.fetch since world).1 = .error fetched ∧ f = fetched.within fetchingText

namespace Stage

variable {out : Outside σ} {s : Session} {world : σ} {q : Question} {goal : Goal} {t : Ticket}
  {f : Failure}

/-- An answer fails for a time in the snapshot that it is computed from. -/
theorem run_answer_fails (failed : ((answer q).run out s world).2.result = .ok (.error f)) :
    f.Blames ((answer q).run out s world).1.snapshot := by
  obtain ⟨visibility, viewport, frame⟩ := q.answer_frame s (out.now world)
  rw [run] at failed ⊢
  simp only [step] at failed ⊢
  rcases answered : q.answer s (out.now world) with ⟨s', halt | a⟩
  · have snapshot : s'.snapshot = s.snapshot := by
      rw [answered] at frame
      rw [show s' = _ from frame]
      rfl
    rw [answered] at failed
    cases halt with
    | data fault =>
      rw [run] at failed ⊢
      cases failed
      obtain ⟨source, value, rfl, spoilt⟩ := Question.answer_eq_data (congrArg Prod.snd answered)
      exact ⟨source, value, rfl, snapshot ▸ spoilt⟩
    | arithmetic fault =>
      rw [run] at failed
      cases failed
  · rw [answered, run] at failed
    cases failed

theorem run_next_fails {taken : Bool}
    (failed : ((next goal taken).run out s world).2.result = .ok (.error f)) :
    f.Blames ((next goal taken).run out s world).1.snapshot := by
  cases goal with
  | ask q => exact run_answer_fails failed
  | report | view v =>
    rw [next, run] at failed
    cases failed

/-- A failure of a fetch is passed on with what was being done. -/
theorem run_settle_fails {outcome : Except Failure Snapshot}
    (failed : ((settle goal t outcome).run out s world).2.result = .ok (.error f)) :
    f.Blames ((settle goal t outcome).run out s world).1.snapshot ∨
      ∃ fetched, outcome = .error fetched ∧ f = fetched.within fetchingText := by
  rw [run] at failed ⊢
  cases outcome with
  | ok snapshot => exact .inl (run_next_fails failed)
  | error fetched =>
    simp only [step] at failed
    rw [run] at failed
    cases failed
    exact .inr ⟨fetched, rfl, rfl⟩

theorem run_begin_fails (failed : ((begin goal).run out s world).2.result = .ok (.error f)) :
    Fails out world ((begin goal).run out s world).1 f := by
  rw [run] at failed ⊢
  simp only [step, Session.beginRefresh] at failed ⊢
  cases reached : s.view.since? (out.now world) with
  | none =>
    rw [reached, run] at failed
    cases failed
  | some since =>
    rw [reached] at failed
    dsimp only at failed ⊢
    rw [run] at failed ⊢
    rcases run_settle_fails failed with blames | ⟨fetched, fetch, within⟩
    · exact .inl blames
    · exact .inr ⟨since, fetched, fetch, within⟩

theorem run_look_fails (failed : ((look q).run out s world).2.result = .ok (.error f)) :
    Fails out world ((look q).run out s world).1 f := by
  rw [run] at failed ⊢
  simp only [step] at failed ⊢
  cases has : s.hasSnapshot with
  | true =>
    simp only [has, if_true] at failed ⊢
    exact .inl (run_answer_fails failed)
  | false =>
    simp only [has, Bool.false_eq_true, if_false] at failed ⊢
    exact run_begin_fails failed

theorem run_change_fails {c : ViewChange}
    (failed : ((change c).run out s world).2.result = .ok (.error f)) :
    Fails out world ((change c).run out s world).1 f := by
  rw [run] at failed ⊢
  simp only [step] at failed ⊢
  rcases changed : changeView s c with ⟨s', isNew⟩
  rw [changed] at failed
  cases isNew with
  | true => exact run_begin_fails failed
  | false =>
    rw [if_neg Bool.false_ne_true, run] at failed
    cases failed

end Stage

/-- A call fails for a time in the snapshot that its session then has, or for its own fetch. -/
theorem Call.run_fails {out : Outside σ} {s : Session} {world : σ} {call : Call} {f : Failure}
    (failed : (call.run out s world).2.result = .ok (.error f)) :
    Stage.Fails out world (call.run out s world).1 f := by
  cases call with
  | refresh => exact Stage.run_begin_fails failed
  | setView c => exact Stage.run_change_fails failed
  | ask q => exact Stage.run_look_fails failed

/-- A summary for the paper display fails only as its fetch does. -/
theorem PaperSummary.fetch_fails {out : Outside σ} {zone : Zone} {location : String} {hours : Nat}
    {world : σ} {f : Failure}
    (failed : (fetch out zone location hours world).result = .ok (.error f)) :
    ∃ since fetched, (out.fetchPaper since location world).1 = .error fetched ∧
      f = fetched.within (fetchingText location) := by
  unfold fetch at failed
  split at failed
  · cases failed
  · rename_i since _
    refine ⟨since, ?_⟩
    dsimp only at failed
    cases fetched : (out.fetchPaper since location world).1 with
    | ok snapshot =>
      rw [fetched] at failed
      cases failed
    | error failure =>
      rw [fetched] at failed
      cases failed
      exact ⟨failure, rfl, rfl⟩

end HouseholdDashboard
