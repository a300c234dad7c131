import HouseholdDashboard.Backend.Fetch
import HouseholdDashboard.Proofs.Session.Reachable
import HouseholdDashboard.Proofs.Text.Percent
import Mathlib.Data.List.Forall2

/-!
# What becomes of a reply

A fetch for the dashboard succeeds exactly if the reply reports success, can be read, reports no
error, has data (`Http.Reply.Brings`), and the data's solar history has only times that can be read.
The snapshot then carries everything over in its order (`DashboardData.Yields`); otherwise the first
bad time of the history is at fault (`Endpoint.fetch_yields`).
-/

namespace HouseholdDashboard

/-! ## Events -/

/-- A word that no kind of a category has is not known. -/
theorem State.ofWord_of_unheard {category : Category} {word : String}
    (unheard : ∀ kind : Kind, kind.category = category → kind.word ≠ word) :
    ofWord category word = unknown category := by
  have none : (Kind.all.find? fun kind => kind.category = category ∧ kind.word = word) = none := by
    simpa using fun kind _ => unheard kind
  rw [ofWord, none]

namespace Backend

/-- Whether an event says what a device of a category reported. -/
structure Report.Yields (category : Category) (r : Report) (e : Event) : Prop where
  id : e.id = r.id
  device : e.device = r.device
  text : ∀ s, r.time = .text s → e.time = s
  /-- A count of milliseconds is written in decimal. -/
  count : ∀ n, r.time = .count n → e.time = toString n.count
  known : ∀ kind : Kind, kind.category = category → kind.word = r.word → e.state = .known kind
  unknown : (∀ kind : Kind, kind.category = category → kind.word ≠ r.word) →
    e.state = .unknown category

theorem Report.yields_event (category : Category) (r : Report) :
    r.Yields category (r.event category) where
  id := rfl
  device := rfl
  text s written := by rw [event, written, WrittenTime.shown]
  count n written := by rw [event, written, WrittenTime.shown]
  known kind sort same := by
    rw [event, ← same]
    exact State.ofWord_of_word sort
  unknown unheard := State.ofWord_of_unheard unheard

theorem Report.forall₂_yields (category : Category) (reports : List Report) :
    List.Forall₂ (Yields category) reports (reports.map (event category)) := by
  induction reports with
  | nil => exact .nil
  | cons r reports ih => exact .cons (yields_event category r) ih

/-! ## The solar history -/

namespace SolarReading

/-- Whether a reading's time can be read. -/
def isTimed (r : SolarReading) : Bool := (Timestamp.millis? r.time.shown).isSome

/-- Whether a sample says what a reading does. -/
structure Yields (r : SolarReading) (s : SolarSample) : Prop where
  time : Timestamp.millis? r.time.shown = some s.time
  wattHours : s.wattHours = r.wattHours
  uvLevel : s.uvLevel = r.uvLevel

/-- The first reading whose time cannot be read is the fault of the whole history. -/
theorem mapM_sample_of_untimed {readings : List SolarReading} {r : SolarReading}
    (first : readings.find? (!·.isTimed) = some r) :
    readings.mapM sample = .error (.badTimestamp source r.time.shown) := by
  induction readings with
  | nil => cases first
  | cons x readings ih =>
    rw [List.mapM_cons]
    cases named : Timestamp.millis? x.time.shown with
    | none =>
      have same : x = r := by simpa [isTimed, named] using first
      rw [← same, sample, named]
      rfl
    | some time =>
      rw [ih (by simpa [isTimed, named] using first), sample, named]
      rfl

/-- A history whose times can all be read has a sample for each reading. -/
theorem exists_mapM_sample {readings : List SolarReading}
    (timed : readings.find? (!·.isTimed) = none) :
    ∃ samples, readings.mapM sample = .ok samples ∧ List.Forall₂ Yields readings samples := by
  induction readings with
  | nil => exact ⟨[], rfl, .nil⟩
  | cons x readings ih =>
    rw [List.find?_eq_none] at timed
    obtain ⟨samples, read, yields⟩ :=
      ih (List.find?_eq_none.mpr fun r mem => timed r (List.mem_cons_of_mem x mem))
    have first : x.isTimed = true := by simpa using timed x List.mem_cons_self
    obtain ⟨time, named⟩ := Option.isSome_iff_exists.mp first
    refine ⟨⟨time, x.wattHours, x.uvLevel⟩ :: samples, ?_, .cons ⟨named, rfl, rfl⟩ yields⟩
    rw [List.mapM_cons, read, sample, named]
    rfl

end SolarReading

/-! ## The whole snapshot -/

namespace DashboardData

/-- Whether a snapshot says what the data does, everything in its order. -/
structure Yields (d : DashboardData) (s : Snapshot) : Prop where
  doors : List.Forall₂ (Report.Yields .door) d.events.doors s.doors
  appliances : List.Forall₂ (Report.Yields .appliance) d.events.appliances s.appliances
  wifi : List.Forall₂ (Report.Yields .wifi) d.events.wifi s.wifi
  solarHistory : List.Forall₂ SolarReading.Yields d.panels.history s.solarHistory
  solarCurrent : s.solarCurrent = d.panels.current.getD {}
  noRooms : d.climates = none → s.rooms = []
  rooms : ∀ c, d.climates = some c → s.rooms = [⟨"outdoor", c.outdoor⟩,
    ⟨"livingRoom", c.livingRoom⟩, ⟨"bedroom", c.bedroom⟩, ⟨"laundry", c.laundry⟩]
  energyHistory : s.energyHistory = d.energy.getD []

theorem snapshot_of_untimed {d : DashboardData} {r : SolarReading}
    (first : d.panels.history.find? (!·.isTimed) = some r) :
    d.snapshot = .error (.badTimestamp SolarReading.source r.time.shown) := by
  rw [snapshot, SolarReading.mapM_sample_of_untimed first]
  rfl

theorem exists_snapshot {d : DashboardData} (timed : d.panels.history.find? (!·.isTimed) = none) :
    ∃ s, d.snapshot = .ok s ∧ d.Yields s := by
  obtain ⟨samples, read, yields⟩ := SolarReading.exists_mapM_sample timed
  rw [snapshot, read]
  refine ⟨_, rfl, ?_⟩
  exact {
    doors := Report.forall₂_yields _ _
    appliances := Report.forall₂_yields _ _
    wifi := Report.forall₂_yields _ _
    solarHistory := yields
    solarCurrent := rfl
    noRooms := fun none => by rw [none]; rfl
    rooms := fun c some => by rw [some]; rfl
    energyHistory := rfl }

end DashboardData

/-! ## Replies -/

variable {read : Json.Reader α} {reply : Http.Reply}

/-- Whether a reply brings data: it reports success, can be read and reports no error. -/
structure Brings (read : Json.Reader α) (reply : Http.Reply) (data : α) : Prop where
  success : 200 ≤ reply.status ∧ reply.status < 300
  payload : Payload.read read (document reply.body) = .ok ⟨some data, []⟩

/-- Why a reply brings no data, each reason only where the ones before do not apply. -/
inductive Lacks (read : Json.Reader α) (reply : Http.Reply) : Fault → Prop
  | refused (failed : ¬(200 ≤ reply.status ∧ reply.status < 300)) :
    Lacks read reply (.refused reply.status (Text.ofBytesLossy reply.body))
  | unreadable (success : 200 ≤ reply.status ∧ reply.status < 300) {misread : Json.Misread}
    (payload : Payload.read read (document reply.body) = .error misread) :
    Lacks read reply .unreadable
  | reported (success : 200 ≤ reply.status ∧ reply.status < 300) {data : Option α}
    {message : String} {others : List String}
    (payload : Payload.read read (document reply.body) = .ok ⟨data, message :: others⟩) :
    Lacks read reply (.reported message)
  | empty (success : 200 ≤ reply.status ∧ reply.status < 300)
    (payload : Payload.read read (document reply.body) = .ok ⟨none, []⟩) :
    Lacks read reply .empty

theorem isSuccess_iff : Http.Status.isSuccess reply.status = true ↔
    200 ≤ reply.status ∧ reply.status < 300 := by
  simp [Http.Status.isSuccess]

theorem dataOf_of_brings {data : α} (brings : Brings read reply data) :
    dataOf read (some reply) = .ok data := by
  simp [dataOf, isSuccess_iff.mpr brings.success, brings.payload]
  rfl

theorem dataOf_of_lacks {fault : Fault} (lacks : Lacks read reply fault) :
    dataOf read (some reply) = .error fault := by
  cases lacks with
  | refused failed =>
    have failed : Http.Status.isSuccess reply.status = false :=
      Bool.eq_false_iff.mpr fun passed => failed (isSuccess_iff.mp passed)
    simp [dataOf, failed]
    rfl
  | unreadable success payload | reported success payload | empty success payload =>
    simp [dataOf, isSuccess_iff.mpr success, payload]
    rfl

/-- A reply brings data, or there is a reason why it does not. -/
theorem brings_or_lacks (read : Json.Reader α) (reply : Http.Reply) :
    (∃ data, Brings read reply data) ∨ ∃ fault, Lacks read reply fault := by
  by_cases success : 200 ≤ reply.status ∧ reply.status < 300
  · cases payload : Payload.read read (document reply.body) with
    | error misread => exact .inr ⟨_, .unreadable success payload⟩
    | ok found =>
      rcases found with ⟨_ | data, _ | ⟨message, others⟩⟩
      · exact .inr ⟨_, .empty success payload⟩
      · exact .inr ⟨_, .reported success payload⟩
      · exact .inl ⟨data, success, payload⟩
      · exact .inr ⟨_, .reported success payload⟩
  · exact .inr ⟨_, .refused success⟩

theorem dataOf_eq_ok_iff {data : α} :
    dataOf read (some reply) = .ok data ↔ Brings read reply data := by
  refine ⟨fun found => ?_, dataOf_of_brings⟩
  rcases brings_or_lacks read reply with ⟨data', brings⟩ | ⟨fault, lacks⟩
  · rw [dataOf_of_brings brings] at found
    cases found
    exact brings
  · rw [dataOf_of_lacks lacks] at found
    cases found

theorem dataOf_eq_error_iff {fault : Fault} :
    dataOf read (some reply) = .error fault ↔ Lacks read reply fault := by
  refine ⟨fun found => ?_, dataOf_of_lacks⟩
  rcases brings_or_lacks read reply with ⟨data, brings⟩ | ⟨fault', lacks⟩
  · rw [dataOf_of_brings brings] at found
    cases found
  · rw [dataOf_of_lacks lacks] at found
    cases found
    exact lacks

/-- A fetch for the dashboard succeeds exactly if the reply brings data whose solar history has
only times that can be read, and then its snapshot yields all of that data.  It fails for a bad
time exactly if the reply brings data with such a time in the solar history, of which the first
counts; and for want of data exactly if the reply lacks it. -/
theorem Endpoint.fetch_yields {σ : Type} (e : Endpoint) (carry : Http.Carrier σ)
    (since : Instant) (world : σ) {reply : Http.Reply}
    (replied : ((e.post (.dashboard since)).exchange carry world).1 = some reply) :
    let outcome := (e.fetch carry since world).1
    ((∃ s, outcome = .ok s) ↔ ∃ data, Brings DashboardData.read reply data ∧
      ∀ r ∈ data.panels.history, r.isTimed = true) ∧
    (∀ s, outcome = .ok s → ∃ data, Brings DashboardData.read reply data ∧ data.Yields s) ∧
    (∀ source value, (∃ failure, outcome = .error failure ∧
        failure.cause = .data (.badTimestamp source value)) ↔
      ∃ data r, Brings DashboardData.read reply data ∧
        data.panels.history.find? (!·.isTimed) = some r ∧
        "solar.history" = source ∧ r.time.shown = value) ∧
    ∀ fault, outcome = .error (.ofCause (.backend fault)) ↔
      Lacks DashboardData.read reply fault := by
  intro outcome
  have made : outcome = snapshotOf (some reply) := by
    show (e.fetch carry since world).1 = _
    rw [Endpoint.fetch, Prod.map_fst, replied]
  have timed_iff (data : DashboardData) : (∀ r ∈ data.panels.history, r.isTimed = true) ↔
      data.panels.history.find? (!·.isTimed) = none := by simp
  simp only [← dataOf_eq_ok_iff, ← dataOf_eq_error_iff, timed_iff]
  cases found : dataOf DashboardData.read (some reply) with
  | error fault =>
    have failed : outcome = .error (.ofCause (.backend fault)) := by
      rw [made, snapshotOf, madeOf, found]
    simp [failed, Failure.ofCause]
  | ok data =>
    cases first : data.panels.history.find? (!·.isTimed) with
    | none =>
      obtain ⟨s, given, yields⟩ := DashboardData.exists_snapshot first
      have succeeded : outcome = .ok s := by
        simp only [made, snapshotOf, madeOf, found, given]
        rfl
      simp [succeeded, first, yields, -List.find?_eq_none]
    | some r =>
      have failed :
          outcome = .error (.ofFault (.badTimestamp SolarReading.source r.time.shown)) := by
        simp only [made, snapshotOf, madeOf, found, DashboardData.snapshot_of_untimed first]
        rfl
      simp [failed, first, Failure.ofCause, Failure.ofFault, SolarReading.source,
        -List.find?_eq_none]

/-- A reply with a gate in a state that nobody knows. -/
def ajar : Http.Reply :=
  ⟨207, Text.bytes ("\x7b\"data\":\x7b\"events\":\x7b\"doors\":[\x7b\"id\":\"e1\"," ++
    "\"name\":\"gate\",\"time\":43200000,\"state\":\"AJAR\"\x7d]\x7d," ++
    "\"environment\":\x7b\x7d\x7d,\"errors\":[]\x7d")⟩

def ajarData : DashboardData where
  events := { doors := [⟨"e1", "gate", .count ⟨43200000, by decide, by decide⟩, "AJAR"⟩] }
  climates := some {}
  solar := none
  energy := none

theorem brings_ajar : Brings DashboardData.read ajar ajarData where
  success := by decide
  payload := by
    rw [document, ajar]
    simp only [Text.ofBytes?_bytes]
    decide +kernel

/-- A fetch that is given that reply. -/
def fetchedAjar : Except Failure Snapshot :=
  (Endpoint.fetch ⟨"http://backend", none⟩ (fun _ world => (some ajar, world))
    Session.noon ()).1

theorem Endpoint.fetch_yields_ajar : ∃ s e, fetchedAjar = .ok s ∧ s.doors = [e] ∧
    e.id = "e1" ∧ e.time = "43200000" ∧ e.state = .unknown .door ∧
    s.rooms = [⟨"outdoor", none⟩, ⟨"livingRoom", none⟩, ⟨"bedroom", none⟩, ⟨"laundry", none⟩] := by
  obtain ⟨ok_iff, carried, -⟩ := fetch_yields ⟨"http://backend", none⟩
    (fun _ world => (some ajar, world)) Session.noon () rfl
  obtain ⟨s, fetched⟩ := ok_iff.mpr ⟨ajarData, brings_ajar, fun r none => by cases none⟩
  obtain ⟨data, brings, yields⟩ := carried s fetched
  have same : data = ajarData :=
    Except.ok.inj ((dataOf_of_brings brings).symm.trans (dataOf_of_brings brings_ajar))
  rw [same] at yields
  obtain ⟨e, rest, reported, none, doors⟩ := List.forall₂_cons_left_iff.mp yields.doors
  rw [List.forall₂_nil_left_iff.mp none] at doors
  have unheard : ∀ kind : Kind, kind.category = .door → kind.word ≠ "AJAR" := by
    intro kind _
    cases kind <;> decide
  exact ⟨s, e, fetched, doors, reported.id, reported.count _ rfl, reported.unknown unheard,
    yields.rooms _ rfl⟩

end Backend

end HouseholdDashboard
