import HouseholdDashboard.Gateway.Setup
import HouseholdDashboard.Proofs.Gateway.Change
import HouseholdDashboard.Proofs.Gateway.Status
import HouseholdDashboard.Proofs.Time.LocalText

/-!
# Failures and outbound calls

Status 502 reports that others did not do their part.  So it should only be sent if an outbound call
was made for the request and failed; what fails without a call is to be reported as bad data, with
status 422.  It is so for every call on the session and for the paper display: a failure that is not
for bad data is always that of a fetch (`Run.Accounted`).  It is not so for an alarm whose time lies
beyond the calendar (`Order.Unsendable`): nothing is sent for it, and yet the gateway answers with
status 502.
-/

namespace HouseholdDashboard

/-! ## Runs -/

/-- Whether what came of something accounts for its failure: the data is at fault, or an outbound
call that was made. -/
def Run.Accounted (r : Run σ α) : Prop :=
  ∀ f, r.result = .ok (.error f) → f.isData = true ∨ ∃ a ∈ r.attempts, a.succeeded = false

namespace Run

variable {r : Run σ α} {world : σ} {f : Failure} {attempt : Attempt}

theorem accounted_ok (world : σ) (a : α) : (still world (.ok a)).Accounted := by
  intro f failed
  cases failed

theorem accounted_data (world : σ) (bad : f.isData = true) :
    (still world (.error f) : Run σ α).Accounted := by
  intro f' failed
  cases failed
  exact .inl bad

theorem accounted_crash (world : σ) (fault : ArithmeticFault) :
    (crash world fault : Run σ α).Accounted := by
  intro f failed
  cases failed

/-- A call that failed accounts for whatever fails after it. -/
theorem accounted_after (r : Run σ α) (failed : attempt.succeeded = false) :
    (r.after attempt).Accounted :=
  fun _ _ => .inr ⟨attempt, List.mem_cons_self, failed⟩

namespace Accounted

theorem after (h : r.Accounted) (attempt : Attempt) : (r.after attempt).Accounted := by
  intro f failed
  rcases h f failed with bad | ⟨a, mem, unsuccessful⟩
  · exact .inl bad
  · exact .inr ⟨a, List.mem_cons_of_mem attempt mem, unsuccessful⟩

theorem map (h : r.Accounted) (form : α → β) : (r.map form).Accounted :=
  fun f failed => h f (failed_of_map failed)

/-- A call that was made accounts for its own failure, and does no harm if it succeeded. -/
theorem after_ofResult {outcome : Except Failure β} (call : Outbound)
    (h : ∀ b, outcome = .ok b → r.Accounted) :
    (r.after (.ofResult call outcome)).Accounted := by
  cases outcome with
  | error f => exact accounted_after r rfl
  | ok b => exact (h b rfl).after _

end Accounted

end Run

/-! ## Calls on the session -/

/-- Whether a call has not met a failure yet, except for bad data. -/
def Stage.Blameless : Stage → Prop
  | settle _ _ (.error _) => False
  | done (.error f) => f.isData = true
  | _ => True

namespace Stage

theorem blameless_next (goal : Goal) (taken : Bool) : (next goal taken).Blameless := by
  cases goal <;> trivial

/-- No section of a call meets a failure, except for bad data. -/
theorem Blameless.step {stage : Stage} (h : stage.Blameless) (now : Instant) (s : Session) :
    (stage.step now s).2.Blameless := by
  cases stage with
  | look q =>
    simp only [Stage.step]
    split <;> trivial
  | change c =>
    simp only [Stage.step]
    split <;> trivial
  | begin goal =>
    simp only [Stage.step]
    split <;> trivial
  | settle goal t outcome =>
    cases outcome with
    | ok snapshot => exact blameless_next goal _
    | error f => exact h.elim
  | answer q =>
    simp only [Stage.step]
    split
    · trivial
    · rfl
    · trivial
  | fetching goal t since => trivial
  | done result => exact h
  | crashed fault => trivial

/-- The rest of a call that has not met a failure accounts for the failure that it may meet. -/
theorem Blameless.run_accounted {stage : Stage} (h : stage.Blameless) (out : Outside σ)
    (s : Session) (world : σ) : (stage.run out s world).2.Accounted := by
  induction s, world, stage using Stage.run.induct out with
  | case1 s world result =>
    rw [run]
    cases result with
    | ok a => exact Run.accounted_ok world a
    | error f => exact Run.accounted_data world h
  | case2 s world fault =>
    rw [run]
    exact Run.accounted_crash world fault
  | case3 s world goal t since outcome world' fetched ih =>
    rw [run, fetched]
    -- a fetch that failed is called to account itself, so only one that succeeded goes on
    refine Run.Accounted.after_ofResult _ fun snapshot arrived => ?_
    subst arrived
    exact ih trivial
  | case4 s world _ _ ih | case5 s world _ _ ih | case6 s world _ _ ih
  | case7 s world _ _ _ _ ih | case8 s world _ _ ih =>
    rw [run]
    exact ih (h.step _ _)

end Stage

theorem Call.run_accounted (call : Call) (out : Outside σ) (s : Session) (world : σ) :
    (call.run out s world).2.Accounted := by
  have blameless : (Stage.ofCall call).Blameless := by cases call <;> trivial
  exact blameless.run_accounted out s world

/-! ## Errands -/

theorem PaperSummary.fetch_accounted (out : Outside σ) (zone : Zone) (location : String)
    (hours : Nat) (world : σ) : (fetch out zone location hours world).Accounted := by
  unfold fetch
  split
  · exact Run.accounted_crash world .calendar
  · refine Run.Accounted.after_ofResult _ fun snapshot arrived => ?_
    rw [arrived]
    exact Run.accounted_ok _ _

namespace Alarm

/-- Nothing is sent for an alarm beyond the calendar, and the data is not said to be at fault. -/
theorem forward_of_beyond (out : Outside σ) (zone : Zone) {trigger : Millis} (world : σ)
    (beyond : Instant.ofMillis? trigger.count = none) :
    forward out zone trigger world = .still world (.error (.ofCause (.alarmTime trigger.count))) := by
  simp only [forward, localTimeText_eq, beyond]

theorem forward_accounted (out : Outside σ) (zone : Zone) {trigger : Millis} {t : Instant}
    (world : σ) (named : Instant.ofMillis? trigger.count = some t) :
    (forward out zone trigger world).Accounted := by
  simp only [forward, localTimeText_eq, named]
  refine Run.Accounted.after_ofResult _ fun status arrived => ?_
  rw [arrived]
  exact Run.accounted_ok _ _

end Alarm

/-! ## Orders -/

namespace Order

/-- Whether what is asked is to pass on an alarm whose time lies beyond the calendar. -/
def Unsendable : Order → Prop
  | alarm trigger => ¬(-8334601228800000 ≤ trigger.count ∧ trigger.count ≤ 8210266876799999)
  | _ => False

/-- What is done for an order, its answer left out. -/
def run (g : Gateway) (out : Outside σ) (world : σ) : Order → Run σ Unit
  | health | showView => .still world (.ok ())
  | call c => (c.run out g.session world).2.map fun _ => ()
  | paper location hours =>
    (PaperSummary.fetch out g.session.zone (location.getD g.location) (hours.getD 12)
      world).map fun _ => ()
  | alarm trigger => (Alarm.forward out g.alarmZone trigger world).map fun _ => ()

variable (g : Gateway) (out : Outside σ) (world : σ)

theorem result_run (order : Order) : (order.run g out world).result = order.outcome g out world := by
  cases order <;> rfl

theorem run_of_unsendable {order : Order} (unsendable : order.Unsendable) :
    ∃ count, order.run g out world = .still world (.error (.ofCause (.alarmTime count))) := by
  cases order with
  | alarm trigger =>
    refine ⟨trigger.count, ?_⟩
    rw [run, Alarm.forward_of_beyond out _ world (Instant.ofMillis?_eq_none_iff.mpr unsendable)]
    rfl
  | _ => exact unsendable.elim

theorem run_accounted {order : Order} (sendable : ¬order.Unsendable) :
    (order.run g out world).Accounted := by
  cases order with
  | health | showView => exact Run.accounted_ok world ()
  | call c => exact (c.run_accounted out g.session world).map _
  | paper location hours => exact (PaperSummary.fetch_accounted out _ _ _ world).map _
  | alarm trigger =>
    have reached := Instant.ofMillis?_isSome_iff.mpr (not_not.mp sendable)
    obtain ⟨t, named⟩ := Option.isSome_iff_exists.mp reached
    exact (Alarm.forward_accounted out _ world named).map _

end Order

/-! ## Requests -/

/-- A request to pass an alarm on. -/
def Http.Request.passAlarm (trigger : Millis) : Http.Request where
  method := .post
  path := Resource.alarm.path
  query := none
  headers := [("content-type", "application/json")]
  body := (Json.object [("trigger_time_ms", .int trigger.count)]).printed

/-- Every count of 64 bits can be the time of an alarm. -/
theorem Alarm.Request.read_document (trigger : Millis) :
    read (Json.FlatMembers.draft [("trigger_time_ms", .whole trigger.count)]) =
      .ok ⟨trigger⟩ := by
  have fits : Millis.ofInt? trigger.count = some trigger := Millis.ofInt?_eq_some_iff.mpr rfl
  have count : Json.Reader.millis (.number (Json.Scalar.spelled trigger.count)) = .ok trigger := by
    rw [Json.Scalar.spelled_count]
    simp only [Json.Reader.millis, Json.Reader.whole, if_true, bind, Except.bind, fits]
  simp only [read, Json.Reader.slots, Json.Reader.members, Json.FlatMembers.draft,
    Json.Scalar.draft, List.map_cons, List.map_nil, bind, Except.bind, List.foldlM_cons,
    List.foldlM_nil, Json.Reader.once, count]
  rfl

theorem Order.ofRequest_passAlarm (trigger : Millis) :
    ofRequest (.passAlarm trigger) = .ok (.alarm trigger) := by
  have found : Resource.ofPath? (Http.Request.passAlarm trigger).path = some .alarm :=
    Resource.ofPath?_path .alarm
  have post : (Http.Request.passAlarm trigger).method = .post := rfl
  have labelled : (Http.Request.passAlarm trigger).saysJson = true :=
    Http.Request.saysJson_of_headers rfl
  have body : Json.Draft.ofText (Http.Request.passAlarm trigger).body =
      Json.FlatMembers.draft [("trigger_time_ms", .whole trigger.count)] :=
    Json.FlatMembers.ofText_printed [("trigger_time_ms", .whole trigger.count)]
  have document : (Http.Request.passAlarm trigger).document Alarm.Request.read = .ok ⟨trigger⟩ := by
    rw [Http.Request.document, labelled, body, Alarm.Request.read_document]
    rfl
  simp only [ofRequest, found, post, ofPost, ofBody, document]

/-- The last count of 64 bits, far beyond the calendar. -/
def Millis.last : Millis := .saturate 9223372036854775807

namespace Gateway

variable {g : Gateway} {out : Outside σ} {world : σ} {r : Http.Request} {order : Order}
  {response : Http.Response}

/-- The outbound calls for a request are those of its order. -/
theorem attempts_serve (out : Outside σ) (world : σ) (ordered : Order.ofRequest r = .ok order) :
    (g.serve out world r).attempts = (order.run g out world).attempts := by
  simp only [serve, ordered]
  cases order <;> rfl

/-- A response tells what became of the order. -/
theorem exists_result_of_response (ordered : Order.ofRequest r = .ok order)
    (responded : (g.serve out world r).response = .ok response) :
    ∃ result, (order.run g out world).result = .ok result ∧ response.status = statusOf result := by
  have status := status_serve (g := g) out world ordered
  rw [responded, ← Order.result_run] at status
  cases found : (order.run g out world).result with
  | error fault =>
    rw [found] at status
    cases status
  | ok result =>
    rw [found] at status
    exact ⟨result, rfl, Except.ok.inj status⟩

theorem statusOf_cases (result : Except Failure Unit) :
    statusOf result = 200 ∨ statusOf result = 422 ∨ statusOf result = 502 := by
  rcases result with f | u
  · rw [statusOf, failureStatus]
    split
    · exact .inr (.inl rfl)
    · exact .inr (.inr rfl)
  · exact .inl rfl

/-- Status 502 comes of an outbound call that failed. -/
theorem exists_failed_call (ordered : Order.ofRequest r = .ok order)
    (responded : (g.serve out world r).response = .ok response) (sendable : ¬order.Unsendable)
    (badGateway : response.status = 502) :
    ∃ a ∈ (g.serve out world r).attempts, a.succeeded = false := by
  obtain ⟨result, found, status⟩ := exists_result_of_response ordered responded
  rw [status] at badGateway
  rw [attempts_serve out world ordered]
  cases result with
  | ok u => cases badGateway
  | error f =>
    rcases Order.run_accounted g out world sendable f found with bad | failed
    · rw [statusOf, failureStatus, if_pos bad] at badGateway
      cases badGateway
    · exact failed

/-- What fails without an outbound call fails for bad data. -/
theorem unprocessable_of_no_call (ordered : Order.ofRequest r = .ok order)
    (responded : (g.serve out world r).response = .ok response) (sendable : ¬order.Unsendable)
    (noCall : (g.serve out world r).attempts = []) (failed : response.status ≠ 200) :
    response.status = 422 := by
  obtain ⟨result, found, status⟩ := exists_result_of_response ordered responded
  rw [attempts_serve out world ordered] at noCall
  rw [status] at failed ⊢
  cases result with
  | ok u => exact absurd rfl failed
  | error f =>
    rcases Order.run_accounted g out world sendable f found with bad | ⟨a, mem, -⟩
    · rw [statusOf, failureStatus, if_pos bad]
    · rw [noCall] at mem
      cases mem

theorem serve_unsendable (ordered : Order.ofRequest r = .ok order)
    (responded : (g.serve out world r).response = .ok response) (unsendable : order.Unsendable) :
    response.status = 502 ∧ (g.serve out world r).attempts = [] := by
  obtain ⟨result, found, status⟩ := exists_result_of_response ordered responded
  obtain ⟨count, run⟩ := Order.run_of_unsendable g out world unsendable
  rw [run] at found
  cases found
  rw [attempts_serve out world ordered, run]
  exact ⟨status, rfl⟩

/-- A request is answered with status 502 although none of its outbound calls failed, or fails with
no outbound call and is not answered with status 422, in one case only: it is to pass on an alarm
whose time lies beyond the calendar.  In that case it is always so. -/
theorem badGateway_without_call_iff {g : Gateway} {out : Outside σ} {world : σ}
    {r : Http.Request} {order : Order} {response : Http.Response}
    (ordered : Order.ofRequest r = .ok order) :
    let served := g.serve out world r
    served.response = .ok response →
    (response.status = 200 ∨ response.status = 422 ∨ response.status = 502) ∧
    (response.status = 502 ∧ (∀ a ∈ served.attempts, a.succeeded = true) ↔ order.Unsendable) ∧
    (served.attempts = [] ∧ response.status ≠ 200 ∧ response.status ≠ 422 ↔
      order.Unsendable) := by
  intro served responded
  obtain ⟨result, -, status⟩ := exists_result_of_response ordered responded
  refine ⟨status ▸ statusOf_cases result, ⟨?_, fun unsendable => ?_⟩, ⟨?_, fun unsendable => ?_⟩⟩
  · rintro ⟨badGateway, succeeded⟩
    by_contra sendable
    obtain ⟨a, mem, failed⟩ := exists_failed_call ordered responded sendable badGateway
    rw [succeeded a mem] at failed
    cases failed
  · obtain ⟨badGateway, noCall⟩ := serve_unsendable ordered responded unsendable
    refine ⟨badGateway, fun a mem => ?_⟩
    rw [noCall] at mem
    cases mem
  · rintro ⟨noCall, failed, processable⟩
    by_contra sendable
    exact processable (unprocessable_of_no_call ordered responded sendable noCall failed)
  · obtain ⟨badGateway, noCall⟩ := serve_unsendable ordered responded unsendable
    rw [badGateway]
    exact ⟨noCall, by decide, by decide⟩

/-- The house does not answer, so an alarm at the epoch comes to status 502 after a call that
failed. -/
theorem badGateway_without_call_iff_epoch :
    ∃ response, (opened.serve .unplugged () (.passAlarm .zero)).response = .ok response ∧
      response.status = 502 ∧
      ∃ a ∈ (opened.serve .unplugged () (.passAlarm .zero)).attempts, a.succeeded ≠ true := by
  have ordered := Order.ofRequest_passAlarm .zero
  have sendable : ¬(Order.alarm .zero).Unsendable := by
    simp [Order.Unsendable, Millis.zero]
  obtain ⟨response, responded, badGateway⟩ : ∃ response,
      (opened.serve .unplugged () (.passAlarm .zero)).response = .ok response ∧
        response.status = 502 := by
    simp only [serve, ordered]
    exact ⟨_, rfl, rfl⟩
  obtain ⟨-, failed_iff, -⟩ := badGateway_without_call_iff ordered responded
  refine ⟨response, responded, badGateway, ?_⟩
  by_contra none
  refine sendable (failed_iff.mp ⟨badGateway, fun a mem => ?_⟩)
  by_contra failed
  exact none ⟨a, mem, failed⟩

/-- At the last count of 64 bits the answer is status 502 as well, and nothing was sent. -/
theorem badGateway_at_last :
    Order.ofRequest (.passAlarm .last) = .ok (.alarm .last) ∧
    (opened.serve .unplugged () (.passAlarm .last)).attempts = [] ∧
    ∃ response, (opened.serve .unplugged () (.passAlarm .last)).response = .ok response ∧
      response.status = 502 ∧ response.content = .document
        (.object [("error", .string "Alarm time 9223372036854775807 is out of range")]) := by
  have ordered := Order.ofRequest_passAlarm .last
  have forwarded : Alarm.forward .unplugged opened.alarmZone .last () =
      .still () (.error (.ofCause (.alarmTime 9223372036854775807))) :=
    Alarm.forward_of_beyond .unplugged opened.alarmZone ()
      (Instant.ofMillis?_eq_none_iff.mpr (by decide))
  have text : (Failure.ofCause (.alarmTime 9223372036854775807)).message =
      "Alarm time 9223372036854775807 is out of range" := by decide +kernel
  rw [← text]
  simp only [serve, ordered, perform, finish, forwarded]
  exact ⟨trivial, rfl, _, rfl, rfl, rfl⟩

end Gateway

end HouseholdDashboard
