import HouseholdDashboard.Gateway.Setup
import HouseholdDashboard.Proofs.Backend.Snapshot
import HouseholdDashboard.Proofs.Gateway.View
import HouseholdDashboard.Proofs.Service.Failing

/-!
# What a status tells

A request that is understood is answered with status 200 if what it asks for succeeds.  If that
fails, status 422 tells that a time could not be read, wherever it stands: on an event or an energy
sample of the snapshot, or in the solar history that the backend has just sent.  Status 502 tells
that the backend sent no data at all.  What was being done when it failed makes no difference.
-/

namespace HouseholdDashboard

/-! ## Fetches -/

namespace Backend

/-- A time that cannot be read in the solar history that the backend sends in a world. -/
inductive Endpoint.Spoils (e : Endpoint) (carry : Http.Carrier σ) (world : σ) :
    String → String → Prop
  | dashboard {since : Instant} {reply : Http.Reply} {data : DashboardData} {r : SolarReading}
    (replied : ((e.post (.dashboard since)).exchange carry world).1 = some reply)
    (brings : Brings DashboardData.read reply data) (mem : r ∈ data.panels.history)
    (bad : Timestamp.instant? r.time.shown = none) :
    Spoils e carry world "solar.history" r.time.shown
  | paper {since : Instant} {location : String} {reply : Http.Reply} {data : PaperData}
    {r : SolarReading}
    (replied : ((e.post (.paper since location)).exchange carry world).1 = some reply)
    (brings : Brings PaperData.read reply data) (mem : r ∈ data.panels.history)
    (bad : Timestamp.instant? r.time.shown = none) :
    Spoils e carry world "solar.history" r.time.shown

theorem Endpoint.Spoils.instant?_eq_none {e : Endpoint} {carry : Http.Carrier σ} {world : σ}
    {source value : String} (spoils : e.Spoils carry world source value) :
    Timestamp.instant? value = none := by
  cases spoils <;> assumption

/-- What is made of a history fails for a reading in it whose time cannot be read. -/
theorem SolarReading.exists_bad {readings : List SolarReading} {make : List SolarSample → α}
    {fault : DataFault}
    (failed : (do return make (← readings.mapM sample)) = Except.error fault) :
    ∃ r ∈ readings, Timestamp.instant? r.time.shown = none ∧
      fault = .badTimestamp "solar.history" r.time.shown := by
  cases first : readings.find? (!·.isTimed) with
  | none =>
    obtain ⟨samples, read, _⟩ := exists_mapM_sample first
    rw [read] at failed
    cases failed
  | some r =>
    rw [mapM_sample_of_untimed first] at failed
    cases failed
    have untimed : r.isTimed = false := by simpa using List.find?_some first
    exact ⟨r, List.mem_of_find?_eq_some first, Timestamp.instant?_eq_none untimed, rfl⟩

/-- What is made of the data of a reply fails for want of data, or as the data itself does. -/
theorem madeOf_eq_error {read : Json.Reader α} {make : α → Except DataFault β}
    {reply : Option Http.Reply} {f : Failure} (failed : madeOf read make reply = .error f) :
    (∃ fault, f = .ofCause (.backend fault)) ∨
      ∃ r data fault, reply = some r ∧ Brings read r data ∧ make data = .error fault ∧
        f = .ofFault fault := by
  unfold madeOf at failed
  cases found : dataOf read reply with
  | error fault =>
    rw [found] at failed
    cases failed
    exact .inl ⟨fault, rfl⟩
  | ok data =>
    simp only [found] at failed
    cases reply with
    | none => cases found
    | some r =>
      cases made : make data with
      | ok b =>
        rw [made] at failed
        cases failed
      | error fault =>
        rw [made] at failed
        cases failed
        exact .inr ⟨r, data, fault, rfl, dataOf_eq_ok_iff.mp found, made, rfl⟩

/-- Why a fetch failed: the backend sent no data, or a time in it cannot be read. -/
def Endpoint.Fails (e : Endpoint) (carry : Http.Carrier σ) (world : σ) (f : Failure) : Prop :=
  (∃ fault, f.cause = .backend fault) ∨
    ∃ source value, f.cause = .data (.badTimestamp source value) ∧ e.Spoils carry world source value

variable {e : Endpoint} {carry : Http.Carrier σ} {world : σ} {since : Instant} {f : Failure}

/-- What was being done makes no difference to why a fetch failed. -/
theorem Endpoint.Fails.within (fails : e.Fails carry world f) (doing : String) :
    e.Fails carry world (f.within doing) := fails

theorem Endpoint.fetch_fails (failed : (e.fetch carry since world).1 = .error f) :
    e.Fails carry world f := by
  rcases madeOf_eq_error failed with
    ⟨fault, rfl⟩ | ⟨reply, data, fault, replied, brings, spoilt, rfl⟩
  · exact .inl ⟨fault, rfl⟩
  · rw [DashboardData.snapshot] at spoilt
    obtain ⟨r, mem, bad, rfl⟩ := SolarReading.exists_bad spoilt
    exact .inr ⟨_, _, rfl, .dashboard replied brings mem bad⟩

theorem Endpoint.fetchPaper_fails {location : String}
    (failed : (e.fetchPaper carry since location world).1 = .error f) :
    e.Fails carry world f := by
  rcases madeOf_eq_error failed with
    ⟨fault, rfl⟩ | ⟨reply, data, fault, replied, brings, spoilt, rfl⟩
  · exact .inl ⟨fault, rfl⟩
  · rw [PaperData.snapshot] at spoilt
    obtain ⟨r, mem, bad, rfl⟩ := SolarReading.exists_bad spoilt
    exact .inr ⟨_, _, rfl, .paper replied brings mem bad⟩

end Backend

/-! ## Orders -/

/-- Another form of an answer makes no failure. -/
theorem Run.failed_of_map {result : Except ArithmeticFault (Except Failure α)} {form : α → β}
    {f : Failure} (failed : result.map (·.map form) = .ok (.error f)) : result = .ok (.error f) := by
  rcases result with fault | ⟨f' | a⟩ <;> cases failed
  rfl

/-- What becomes of an order, its answer left out. -/
def Order.outcome (g : Gateway) (out : Outside σ) (world : σ) :
    Order → Except ArithmeticFault (Except Failure Unit)
  | .health | .showView => .ok (.ok ())
  | .call c => (c.run out g.session world).2.result.map (·.map fun _ => ())
  | .paper location hours =>
    (PaperSummary.fetch out g.session.zone (location.getD g.location) (hours.getD 12)
      world).result.map (·.map fun _ => ())
  | .alarm trigger => (Alarm.forward out g.alarmZone trigger world).result.map (·.map fun _ => ())

namespace Gateway

variable {g : Gateway} {r : Http.Request} {order : Order}

/-- The status for what became of an order. -/
def statusOf : Except Failure Unit → Nat
  | .ok _ => 200
  | .error f => failureStatus f

theorem status_respond (compressed : Bool) (result : Except Failure α) (shown : α → Json) :
    (respond compressed (result.map shown)).status = statusOf (result.map fun _ => ()) := by
  cases result <;> rfl

/-- The status of a response is the one for what became of the order. -/
theorem status_serve (out : Outside σ) (world : σ) (ordered : Order.ofRequest r = .ok order) :
    (g.serve out world r).response.map (·.status) =
      (order.outcome g out world).map statusOf := by
  have finished {α : Type} (session : Session) (run : Run σ α) (shown : α → Json) :
      (g.finish r.headers.acceptsBrotli session (run.map shown)).response.map (·.status) =
        (run.result.map (·.map fun _ => ())).map statusOf := by
    cases found : run.result with
    | error fault => simp only [finish, Run.map, found]; rfl
    | ok result =>
      simp only [finish, Run.map, found]
      exact congrArg Except.ok (status_respond _ result shown)
  have served : (g.serve out world r).response.map (·.status) =
      (g.perform out world r order).response.map (·.status) := by
    simp only [serve, ordered]
    cases (g.perform out world r order).response <;> rfl
  rw [served]
  cases order with
  | health | showView => rfl
  | call c => exact finished _ (c.run out g.session world).2 _
  | paper location hours => exact finished _ _ _
  | alarm trigger => exact finished _ _ _

/-- An order fails for a time in the snapshot that the session then has, or as a fetch does. -/
theorem outcome_fails {now : σ → Instant} {backend : Backend.Endpoint} {house : Alarm.Webhook}
    {carry : Http.Carrier σ} {world : σ} {f : Failure} (ordered : Order.ofRequest r = .ok order)
    (noAlarm : ∀ trigger, order ≠ .alarm trigger)
    (failed : order.outcome g (.connected now backend house carry) world = .ok (.error f)) :
    f.Blames (g.serve (.connected now backend house carry) world r).gateway.session.snapshot ∨
      backend.Fails carry world f := by
  cases order with
  | health | showView => cases failed
  | alarm trigger => exact absurd rfl (noAlarm trigger)
  | call c =>
    rw [(serve_call _ world ordered).1]
    rcases Call.run_fails (Run.failed_of_map failed) with blames | ⟨since, fetched, fetch, rfl⟩
    · exact .inl blames
    · exact .inr ((Backend.Endpoint.fetch_fails fetch).within _)
  | paper location hours =>
    obtain ⟨since, fetched, fetch, rfl⟩ := PaperSummary.fetch_fails (Run.failed_of_map failed)
    exact .inr ((Backend.Endpoint.fetchPaper_fails fetch).within _)

end Gateway

/-- The resources whose requests have one way to report what became of them. -/
def Resource.reporting : List Resource :=
  [timeline, overview, energy, paper, view, refresh, viewport, visibility]

theorem Resource.ofPath?_path (resource : Resource) : ofPath? resource.path = some resource := by
  cases resource <;> decide

namespace Order

theorem ofBody_eq_ok {r : Http.Request} {read : Json.Reader α} {make : α → Order} {order : Order}
    (ordered : ofBody r read make = .ok order) : ∃ a, order = make a := by
  unfold ofBody at ordered
  split at ordered
  · cases ordered
    exact ⟨_, rfl⟩
  · cases ordered

theorem ofGet_ne_alarm (r : Http.Request) (resource : Resource) (trigger : Millis) :
    ofGet r resource ≠ .ok (.alarm trigger) := by
  intro ordered
  cases resource with
  | paper =>
    simp only [ofGet] at ordered
    split at ordered
    · rename_i asked
      cases ordered
      obtain ⟨f, _, same⟩ := Option.map_eq_some_iff.mp asked
      cases same
    · cases ordered
  | _ => cases ordered

/-- Only a request to the resource for alarms asks for one. -/
theorem eq_alarm_of_ofPost {r : Http.Request} {resource : Resource} {trigger : Millis}
    (ordered : ofPost r resource = .ok (.alarm trigger)) : resource = .alarm := by
  cases resource with
  | alarm => rfl
  | viewport | visibility =>
    obtain ⟨a, same⟩ := ofBody_eq_ok ordered
    cases same
  | _ => cases ordered

theorem ne_alarm_of_reporting {r : Http.Request} {resource : Resource} {order : Order}
    (listed : resource ∈ Resource.reporting) (path : r.path = resource.path)
    (ordered : ofRequest r = .ok order) (trigger : Millis) : order ≠ .alarm trigger := by
  rintro rfl
  have found : Resource.ofPath? r.path = some resource := by rw [path, Resource.ofPath?_path]
  simp only [ofRequest, found] at ordered
  split at ordered
  · exact ofGet_ne_alarm r resource trigger ordered
  · exact ofGet_ne_alarm r resource trigger ordered
  · cases eq_alarm_of_ofPost ordered
    exact absurd listed (by decide)
  · cases ordered

end Order

namespace Gateway

variable {backend : Backend.Endpoint} {carry : Http.Carrier σ} {world : σ} {s : Snapshot}
  {f : Failure}

/-- What is at fault in a failure: a time that cannot be read, or the backend. -/
theorem cause_cases (fails : f.Blames s ∨ backend.Fails carry world f) :
    (∃ source value, f.cause = .data (.badTimestamp source value)) ∨
      ∃ fault, f.cause = .backend fault := by
  rcases fails with ⟨source, value, cause, -⟩ | backendFault | ⟨source, value, cause, -⟩
  · exact .inl ⟨source, value, cause⟩
  · exact .inr backendFault
  · exact .inl ⟨source, value, cause⟩

/-- A time that is at fault in a failure cannot be read, and stands where it was looked for. -/
theorem stands_of_cause {source value : String}
    (fails : f.Blames s ∨ backend.Fails carry world f)
    (bad : f.cause = .data (.badTimestamp source value)) :
    Timestamp.instant? value = none ∧
      (s.Spoilt source value ∨ backend.Spoils carry world source value) := by
  rcases fails with ⟨_, _, cause, spoilt⟩ | ⟨fault, cause⟩ | ⟨_, _, cause, spoils⟩
  · rw [cause] at bad
    cases bad
    exact ⟨spoilt.instant?_eq_none, .inl spoilt⟩
  · rw [cause] at bad
    cases bad
  · rw [cause] at bad
    cases bad
    exact ⟨spoils.instant?_eq_none, .inr spoils⟩

/-- A failure that one of the two is at fault in has one of two statuses. -/
theorem failureStatus_iff
    (cause : (∃ source value, f.cause = .data (.badTimestamp source value)) ∨
      ∃ fault, f.cause = .backend fault) :
    (failureStatus f = 422 ↔ ∃ source value, f.cause = .data (.badTimestamp source value)) ∧
    (failureStatus f = 502 ↔ ∀ source value, f.cause ≠ .data (.badTimestamp source value)) := by
  rcases cause with ⟨source, value, cause⟩ | ⟨fault, cause⟩
  · have status : failureStatus f = 422 := by
      rw [failureStatus, Failure.isData, cause]
      rfl
    rw [status]
    exact ⟨iff_of_true rfl ⟨source, value, cause⟩,
      iff_of_false (by decide) fun other => other source value cause⟩
  · have status : failureStatus f = 502 := by
      rw [failureStatus, Failure.isData, cause]
      rfl
    rw [status, cause]
    exact ⟨iff_of_false (by decide) (by simp), iff_of_true rfl (by simp)⟩

end Gateway

/-- Status 200 tells that what a request asks for succeeded, 422 that it failed for a time that
cannot be read, and 502 that it failed for any other reason.  The time stands in the snapshot that
the session then has, or in the solar history that the backend sends. -/
theorem Gateway.status_tells {now : σ → Instant} {backend : Backend.Endpoint}
    {house : Alarm.Webhook} {carry : Http.Carrier σ} {g : Gateway} {world : σ} {r : Http.Request}
    {resource : Resource} {order : Order} {response : Http.Response}
    (listed : resource ∈ Resource.reporting) (path : r.path = resource.path)
    (ordered : Order.ofRequest r = .ok order) :
    let out := Outside.connected now backend house carry
    let served := g.serve out world r
    served.response = .ok response →
    ∃ result, order.outcome g out world = .ok result ∧
      (response.status = 200 ↔ result = .ok ()) ∧
      (response.status = 422 ↔ ∃ failure source value, result = .error failure ∧
        failure.cause = .data (.badTimestamp source value)) ∧
      (response.status = 502 ↔ ∃ failure, result = .error failure ∧
        ∀ source value, failure.cause ≠ .data (.badTimestamp source value)) ∧
      ∀ failure source value, result = .error failure →
        failure.cause = .data (.badTimestamp source value) →
        Timestamp.instant? value = none ∧
          (served.gateway.session.snapshot.Spoilt source value ∨
            backend.Spoils carry world source value) := by
  intro out served responded
  have status := status_serve (g := g) out world ordered
  rw [responded] at status
  cases found : order.outcome g out world with
  | error fault =>
    rw [found] at status
    cases status
  | ok result =>
    rw [found] at status
    have status : response.status = statusOf result := Except.ok.inj status
    refine ⟨result, rfl, ?_⟩
    cases result with
    | ok u => simp [status, statusOf]
    | error failure =>
      have status : response.status = failureStatus failure := status
      have fails := outcome_fails ordered (Order.ne_alarm_of_reporting listed path ordered) found
      obtain ⟨unprocessable_iff, badGateway_iff⟩ := failureStatus_iff (cause_cases fails)
      rw [← status] at unprocessable_iff badGateway_iff
      refine ⟨iff_of_false (status ▸ failureStatus_ne failure) (by simp), ?_, ?_, ?_⟩
      · simpa using unprocessable_iff
      · simpa using badGateway_iff
      · intro failure' source value same bad
        cases same
        exact stands_of_cause fails bad

/-- A session with an event at a time that is none. -/
def Session.mistimed : Session :=
  [.begin noon, .finish ⟨1⟩ { doors := [⟨"e1", "gate", .known .doorOpen, "noon"⟩] }].foldl advance
    (fresh {} .utc {})

/-- A backend that does not reply, and a house that does not either. -/
def Outside.unplugged : Outside Unit :=
  .connected (fun _ => Session.noon) ⟨"http://backend", none⟩ ⟨"http://house", ""⟩
    fun _ world => (none, world)

/-- A request for the timeline. -/
def Http.Request.showTimeline : Http.Request := ⟨.get, "/timeline", none, [], ""⟩

theorem Gateway.status_tells_mistimed :
    ∃ response, (Gateway.serve ⟨.mistimed, .utc, "home"⟩ .unplugged ()
        .showTimeline).response = .ok response ∧ response.status = 422 ∧
      ∃ failure source value, Order.outcome ⟨.mistimed, .utc, "home"⟩ .unplugged ()
          (.call (.ask .timeline)) = .ok (.error failure) ∧
        failure.cause = .data (.badTimestamp source value) ∧
        Timestamp.instant? value = none := by
  have listed : Resource.timeline ∈ Resource.reporting := by decide
  have ordered : Order.ofRequest .showTimeline = .ok (.call (.ask .timeline)) := by decide +kernel
  have marks : Session.mistimed.marks = .error (.badTimestamp "e1" "noon") := by decide +kernel
  have called : (Call.ask .timeline).run .unplugged .mistimed () =
      (.mistimed, .still () (.error (.ofFault (.badTimestamp "e1" "noon")))) := by
    rw [Call.run, Stage.ofCall, Stage.run]
    show Stage.run _ Session.mistimed () (.answer .timeline) = _
    rw [Stage.run]
    simp only [Stage.step, Question.answer, Session.timeline, marks]
    show Stage.run _ Session.mistimed () (.done _) = _
    rw [Stage.run]
  obtain ⟨-, -, responded⟩ := serve_call (g := ⟨.mistimed, .utc, "home"⟩) .unplugged () ordered
  rw [called] at responded
  refine ⟨_, responded, rfl, ?_⟩
  obtain ⟨result, outcome, -, unprocessable, -, stands⟩ :=
    status_tells listed rfl ordered responded
  obtain ⟨failure, source, value, rfl, cause⟩ := unprocessable.mp rfl
  exact ⟨failure, source, value, outcome, cause, (stands failure source value rfl cause).1⟩

end HouseholdDashboard
