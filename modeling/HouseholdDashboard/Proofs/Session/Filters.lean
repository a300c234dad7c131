import HouseholdDashboard.Proofs.Series.Stable
import HouseholdDashboard.Proofs.Session.Untimed

/-!
# Filters along a run

New hours clear the filters and the zoom and leave all else alone; hours that are refused leave
everything alone.  Of the other operations only an action on what is shown touches the filters, and
only if it is answered (`operate_visibility`).  So the filters are what the actions since the last
new hours make of the usual ones (`filters_since_new_hours`).  Which devices an action chooses can
depend on the marks, and those are the marks of its own time, whatever was fetched since.

A run keeps a record of each operation with the session before it, the latest first.  Operations
whose arithmetic has no result are not part of it; while the times of the samples come from texts, an
action on what is shown is none of them (`exists_operate_filter`).
-/

namespace HouseholdDashboard

namespace Session

/-! ## Nothing zoomed -/

/-- A timeline without a viewport from before shows the full extent. -/
theorem timeline_of_no_viewport {s s' : Session} {now : Instant} {t : Timeline}
    (unseen : s.viewport = none)
    (answered : Question.timeline.answer s now = (s', .ok (.timeline t))) :
    t.zoomed = false ∧ t.dragging = false := by
  obtain ⟨marks, v, _, moved, _, drawn⟩ := Question.answer_timeline answered
  obtain ⟨_, _, zoomed, dragging, _⟩ := Timeline.draw_eq_ok drawn
  cases moved
  rw [zoomed, dragging, syncedViewport, unseen]
  exact ⟨rfl, rfl⟩

/-! ## Histories -/

/-- An operation that was carried out, and the session before it. -/
structure Entry where
  before : Session
  op : Operation
deriving DecidableEq

/-- What a session becomes by some operations, the latest first. -/
inductive Run (start : Session) : Session → List Entry → Prop
  | start : Run start start []
  | operate {s s' : Session} {history : List Entry} (run : Run start s history) (op : Operation)
      (became : s.operate op = .ok s') : Run start s' (⟨s, op⟩ :: history)

theorem Reachable.exists_run {start s : Session} (reachable : Reachable start s) :
    ∃ history, Run start s history := by
  induction reachable with
  | start => exact ⟨[], .start⟩
  | operate op _ became ih =>
    obtain ⟨history, run⟩ := ih
    exact ⟨_, run.operate op became⟩

/-- An action on what is shown that was answered, and the marks that there were then. -/
structure Filtering where
  action : VisibilityAction
  marks : List Mark
deriving DecidableEq

/-- The filters after an action with its marks. -/
def Filtering.apply (v : Visibility) (f : Filtering) : Visibility :=
  f.action.apply v f.marks

namespace Entry

/-- Whether the hours were changed to new ones. -/
def isNewHours : Entry → Bool
  | ⟨s, .setHours hours⟩ => (s.setHours hours).2
  | _ => false

/-- The action on what is shown, if it was one and was answered. -/
def filtering? : Entry → Option Filtering
  | ⟨s, .ask (.visibility action) now⟩ =>
    match s.marks, (s.applyVisibility action now).2 with
    | .ok marks, .ok _ => some ⟨action, marks⟩
    | _, _ => none
  | _ => none

end Entry

/-- The actions on what is shown since the last new hours, in their order. -/
def filterings (history : List Entry) : List Filtering :=
  ((history.takeWhile (!·.isNewHours)).filterMap Entry.filtering?).reverse

theorem filterings_cons (e : Entry) (older : List Entry) :
    filterings (e :: older) =
      if e.isNewHours then [] else filterings older ++ e.filtering?.toList := by
  unfold filterings
  rw [List.takeWhile_cons]
  cases e.isNewHours with
  | true => rfl
  | false =>
    simp only [Bool.not_false, if_true, Bool.false_eq_true, if_false, List.filterMap_cons]
    cases e.filtering? with
    | none => exact (List.append_nil _).symm
    | some f => exact List.reverse_cons

/-! ## One step -/

section Step

variable {s s' : Session}

theorem visibility_of_setHours (s : Session) (hours : Nat) :
    (s.setHours hours).1.visibility = if (s.setHours hours).2 then {} else s.visibility := by
  rw [setHours_eq]
  split <;> rfl

/-- An action on what is shown is carried out if it is answered; for bad data it changes nothing. -/
theorem visibility_of_filter {action : VisibilityAction} {now : Instant}
    (became : s.operate (.ask (.visibility action) now) = .ok s') :
    s'.visibility = (Entry.filtering? ⟨s, .ask (.visibility action) now⟩).toList.foldl
      Filtering.apply s.visibility := by
  simp only [operate, Question.answer, applyVisibility_eq_drawing] at became
  simp only [Entry.filtering?, applyVisibility_eq_drawing]
  cases read : s.marks with
  | error fault =>
    rw [drawing_of_data read] at became
    cases became
    rfl
  | ok marks =>
    rcases drawn : s.drawing (.visibility action) now with ⟨s'', result⟩
    rw [drawn] at became
    cases result with
    | ok t =>
      cases became
      obtain ⟨marks', v, read', _, framed, _⟩ := drawing_eq_ok drawn
      cases read.symm.trans read'
      rw [framed]
      rfl
    | error halt =>
      cases halt with
      | arithmetic fault => cases became
      | data fault =>
        have unread := drawing_eq_data (congrArg Prod.snd drawn)
        rw [read] at unread
        cases unread

/-- While the times of all samples were read from texts, an action on what is shown has a result, if
only that the time of an event cannot be read. -/
theorem exists_operate_filter
    (samples : ∀ sample ∈ s.snapshot.solarHistory, ∃ text, Timestamp.millis? text = some sample.time)
    (action : VisibilityAction) (now : Instant) :
    ∃ s', s.operate (.ask (.visibility action) now) = .ok s' := by
  cases read : s.marks with
  | error fault =>
    refine ⟨s, ?_⟩
    simp only [operate, Question.answer, applyVisibility, read]
    rfl
  | ok marks =>
    have readable : s.snapshot.Readable := ⟨Series.timed_of_ofEvents read, samples⟩
    obtain ⟨s', t, answered⟩ := exists_answer_of_readable readable (q := .visibility action) rfl
      (fun _ same => by cases same) now
    exact ⟨s', by simp only [operate, answered]⟩

/-- Questions of another kind leave the filters alone. -/
theorem visibility_of_ask {q : Question} {now : Instant} (other : ∀ action, q ≠ .visibility action)
    (became : s.operate (.ask q now) = .ok s') : s'.visibility = s.visibility := by
  rw [← answer_of_operate became]
  cases q with
  | timeline =>
    obtain ⟨viewport, moved⟩ := s.timeline_frame now
    show (s.timeline now).1.visibility = s.visibility
    rw [moved]
  | viewport action =>
    obtain ⟨viewport, moved⟩ := s.applyViewport_frame action now
    show (s.applyViewport action now).1.visibility = s.visibility
    rw [moved]
  | visibility action => exact absurd rfl (other action)
  | energy => rfl
  | overview => rfl

/-- New hours make the filters as usual again, and nothing but an action on them changes them. -/
theorem operate_visibility {op : Operation} (became : s.operate op = .ok s') :
    s'.visibility = if Entry.isNewHours ⟨s, op⟩ then {} else
      (Entry.filtering? ⟨s, op⟩).toList.foldl Filtering.apply s.visibility := by
  cases op with
  | setTab tab =>
    cases became
    rfl
  | setHours hours =>
    cases became
    exact s.visibility_of_setHours hours
  | begin now =>
    cases operate_begin_eq became
    rfl
  | finish ticket snapshot =>
    cases became
    rfl
  | fail ticket =>
    cases became
    rfl
  | ask q now =>
    cases q with
    | visibility action => exact visibility_of_filter became
    | timeline => exact visibility_of_ask (fun _ same => by cases same) became
    | viewport action => exact visibility_of_ask (fun _ same => by cases same) became
    | energy => exact visibility_of_ask (fun _ same => by cases same) became
    | overview => exact visibility_of_ask (fun _ same => by cases same) became

end Step

/-! ## Runs -/

theorem Run.visibility {start s : Session} {history : List Entry}
    (usual : start.visibility = {}) (run : Run start s history) :
    s.visibility = (filterings history).foldl Filtering.apply {} := by
  induction run with
  | start => exact usual
  | operate run op became ih =>
    rw [operate_visibility became, filterings_cons, ih]
    split
    · rfl
    · rw [List.foldl_append]

/-- What new hours make of a session: its filters are as usual, and nothing is zoomed or dragged; its
tab, its snapshot and its fetches are as before, whether they are settled before or after. -/
structure LooksBackAnew (s : Session) (hours : Nat) (s' : Session) : Prop where
  became : s' = { s with view := { s.view with hours }, visibility := {}, viewport := none }
  unzoomed : ∀ now s'' t, Question.timeline.answer s' now = (s'', .ok (.timeline t)) →
    t.zoomed = false ∧ t.dragging = false
  snapshot : s'.snapshot = s.snapshot
  loading : s'.isLoading = s.isLoading
  finishes : ∀ ticket snapshot, s'.finishRefresh ticket snapshot =
    (((s.finishRefresh ticket snapshot).1.setHours hours).1, (s.finishRefresh ticket snapshot).2)
  fails : ∀ ticket, s'.failRefresh ticket =
    (((s.failRefresh ticket).1.setHours hours).1, (s.failRefresh ticket).2)

theorem looksBackAnew {s : Session} {hours : Nat} (accepted : (s.setHours hours).2 = true) :
    s.LooksBackAnew hours (s.setHours hours).1 where
  became := setHours_of_accepted accepted
  unzoomed now s'' t answered := by
    refine timeline_of_no_viewport ?_ answered
    rw [setHours_of_accepted accepted]
  snapshot := by rw [setHours_of_accepted accepted]; rfl
  loading := by rw [setHours_of_accepted accepted]; rfl
  finishes := s.finishRefresh_setHours hours
  fails := s.failRefresh_setHours hours

/-- New hours are those of the menu that there were not before; only they change the session, and
they clear the filters and the zoom.  So along every run the filters are what the actions on them
since the last new hours make of the usual filters, each with the marks of its own time.  A run can
always go on with such an action while the times of the samples come from texts. -/
theorem filters_since_new_hours {view : View} {zone : Zone} {tariff : Tariff} {s : Session}
    (reachable : Reachable (fresh view zone tariff) s) :
    (∀ hours,
      ((s.setHours hours).2 = true ↔ hours ∈ View.menu ∧ hours ≠ s.view.hours) ∧
      ((s.setHours hours).2 = false → (s.setHours hours).1 = s) ∧
      ((s.setHours hours).2 = true → s.LooksBackAnew hours (s.setHours hours).1)) ∧
    (∃ history, Run (fresh view zone tariff) s history) ∧
    (∀ history, Run (fresh view zone tariff) s history →
      s.visibility = (filterings history).foldl Filtering.apply {}) ∧
    ((∀ sample ∈ s.snapshot.solarHistory, ∃ text, Timestamp.millis? text = some sample.time) →
      ∀ action now, ∃ s', s.operate (.ask (.visibility action) now) = .ok s') := by
  refine ⟨fun hours => ⟨setHours_accepted_iff, setHours_of_refused, looksBackAnew⟩,
    reachable.exists_run, fun history run => ?_, exists_operate_filter⟩
  exact run.visibility rfl

/-! ## A sample -/

/-- The entries for some operations, the latest first; one that has no result leaves none. -/
def entries (s : Session) : List Operation → List Entry
  | [] => []
  | op :: ops =>
    match s.operate op with
    | .ok after => after.entries ops ++ [⟨s, op⟩]
    | .error _ => s.entries ops

theorem Run.entries {start s : Session} {history : List Entry} (run : Run start s history)
    (ops : List Operation) : Run start (ops.foldl advance s) (s.entries ops ++ history) := by
  induction ops generalizing s history with
  | nil => exact run
  | cons op ops ih =>
    rw [List.foldl_cons, advance, Session.entries]
    cases became : s.operate op with
    | error fault => exact ih run
    | ok after =>
      simp only [List.append_assoc, List.singleton_append]
      exact ih (run.operate op became)

/-- First the gate is chosen by its category, and then the phone.  Between the two comes the
snapshot with the phone, and once more the one with the gate, which is late; after them comes one
that cannot be read, so that the choice is not cleared. -/
def chosenInTurn : List Operation :=
  [.begin noon, .finish ⟨1⟩ { doors := [⟨"e1", "gate", .known .doorOpen, "0"⟩] },
    .ask (.visibility (.toggleState .doorOpen)) noon, .setHours 5, .setHours 24,
    .ask (.visibility (.selectCategory .door)) noon, .begin noon,
    .finish ⟨2⟩ { wifi := [⟨"e2", "phone", .known .wifiConnected, "0"⟩] },
    .finish ⟨1⟩ { doors := [⟨"e1", "gate", .known .doorOpen, "0"⟩] }, .setTab .solar,
    .ask (.viewport .zoomIn) noon, .ask (.visibility (.selectCategory .wifi)) noon, .begin noon,
    .finish ⟨3⟩ { doors := [⟨"e3", "gate", .known .doorOpen, "soon"⟩] },
    .ask (.visibility .clearDevices) noon, .setHours 24, .begin noon, .fail ⟨4⟩]

theorem filters_since_new_hours_chosenInTurn :
    ∃ s history, Reachable (fresh {} .utc {}) s ∧ Run (fresh {} .utc {}) s history ∧
      (filterings history).map (·.action) = [.selectCategory .door, .selectCategory .wifi] ∧
      s.visibility = { devices := .ofList ["gate", "phone"] } ∧
      (s.setHours 24).1 = s ∧ s.LooksBackAnew 72 (s.setHours 72).1 ∧
      ∃ s', s.operate (.ask (.visibility .selectAllDevices) noon) = .ok s' := by
  have reachable : Reachable (fresh {} .utc {}) (chosenInTurn.foldl advance (fresh {} .utc {})) :=
    Reachable.start.advances chosenInTurn
  have run : Run (fresh {} .utc {}) _ _ := Run.start.entries chosenInTurn
  have unsampled : (chosenInTurn.foldl advance (fresh {} .utc {})).snapshot.solarHistory = [] := by
    decide +kernel
  obtain ⟨hours, _, follows, goesOn⟩ := filters_since_new_hours reachable
  refine ⟨_, _, reachable, run, by decide +kernel, ?_, (hours 24).2.1 (by decide +kernel),
    (hours 72).2.2 (by decide +kernel), goesOn ?_ _ _⟩
  · rw [follows _ run]
    decide +kernel
  · rw [unsampled]
    exact fun sample listed => absurd listed List.not_mem_nil

end Session

end HouseholdDashboard
