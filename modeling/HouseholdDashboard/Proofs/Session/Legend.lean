import HouseholdDashboard.Proofs.Series.Devices
import HouseholdDashboard.Proofs.Session.Frame
import HouseholdDashboard.Proofs.Session.Untimed

/-!
# The legend tells of the whole snapshot

The counts and the devices beside a chart are computed from all marks of the snapshot, and so they
can be read off its events: the filters, the viewport and the moment have no part in them.  No
question changes the snapshot, so that two charts of one snapshot have the same legend, whatever has
been asked of either session before (`legend_of_snapshot`).
-/

namespace HouseholdDashboard

theorem Kind.mem_all (kind : Kind) : kind ∈ all := by
  cases kind <;> decide

/-- The events of a known state are those of all kinds together. -/
theorem Event.sum_countP_known (events : List Event) :
    (Kind.all.map fun kind => events.countP (·.state = .known kind)).sum =
      events.countP Event.isKnown := by
  induction events with
  | nil => rfl
  | cons e events ih =>
    simp only [Kind.all, List.map_cons, List.map_nil, List.sum_cons, List.sum_nil,
      List.countP_cons] at ih ⊢
    cases known : e.state with
    | unknown category =>
      simp only [isKnown, known, State.kind?, reduceCtorEq, decide_false, Option.isSome_none]
      exact ih
    | known kind =>
      cases kind <;> simp [isKnown, known, State.kind?] <;> omega

theorem DeviceLists.ext {d e : DeviceLists} (doors : d.doors = e.doors)
    (appliances : d.appliances = e.appliances) (wifi : d.wifi = e.wifi) : d = e := by
  cases d
  cases e
  simp_all only

/-- Whether the legend of a timeline tells of these events: how many report each kind, and which
devices of each category do. -/
structure Timeline.Legend (t : Timeline) (events : List Event) : Prop where
  counts : t.counts = Kind.all.map fun kind => (kind, events.countP (·.state = .known kind))
  complete : ∀ kind, kind ∈ t.counts.map (·.1)
  total : (t.counts.map (·.2)).sum + events.countP (!·.isKnown) = events.length
  ascending : ∀ category : Category, (t.devices.ofCategory category).toList.Pairwise (· < ·)
  devices : ∀ (category : Category) (name : String),
    name ∈ (t.devices.ofCategory category).toList ↔ category.HasDevice events name

namespace Timeline.Legend

variable {t t' : Timeline} {events : List Event}

theorem of_counts (counts : t.counts = Kind.all.map fun kind =>
      (kind, events.countP (·.state = .known kind)))
    (devices : ∀ category name, name ∈ t.devices.ofCategory category ↔
      category.HasDevice events name) : t.Legend events where
  counts := counts
  complete kind := by
    rw [counts, List.map_map]
    exact List.mem_map.mpr ⟨kind, kind.mem_all, rfl⟩
  total := by
    have known : (t.counts.map (·.2)).sum = events.countP Event.isKnown := by
      rw [counts, List.map_map]
      exact Event.sum_countP_known events
    rw [known, List.length_eq_countP_add_countP Event.isKnown]
    simp only [Bool.not_eq_true, Bool.decide_eq_false]
  ascending category := (t.devices.ofCategory category).ascending
  devices := devices

/-- Two legends of the same events are the same. -/
theorem unique (legend : t.Legend events) (legend' : t'.Legend events) :
    t.counts = t'.counts ∧ t.devices = t'.devices := by
  refine ⟨legend.counts.trans legend'.counts.symm, ?_⟩
  have same : ∀ category : Category,
      t.devices.ofCategory category = t'.devices.ofCategory category := by
    intro category
    apply Names.ext
    intro name
    exact (legend.devices category name).trans (legend'.devices category name).symm
  have doors : t.devices.doors = t'.devices.doors := same .door
  have appliances : t.devices.appliances = t'.devices.appliances := same .appliance
  have wifi : t.devices.wifi = t'.devices.wifi := same .wifi
  exact DeviceLists.ext doors appliances wifi

end Timeline.Legend

namespace Session

variable {s s' : Session} {q : Question} {now : Instant} {t : Timeline}

theorem mem_ofCategory_of_marks {marks : List Mark} (read : s.marks = .ok marks)
    (category : Category) (name : String) :
    name ∈ (DeviceLists.ofMarks marks).ofCategory category ↔
      category.HasDevice s.snapshot.events name := by
  rw [Series.ofCategory_ofMarks]
  exact Series.mem_devices_of_ofEvents read

theorem legend_of_answer (answered : q.answer s now = (s', .ok (.timeline t))) :
    t.Legend s.snapshot.events := by
  obtain ⟨marks, v, read, _, _, drawn⟩ := Question.answer_timeline answered
  obtain ⟨counts, devices, _⟩ := Timeline.legend_of_draw drawn
  refine Timeline.Legend.of_counts ?_ ?_
  · rw [counts]
    exact List.map_congr_left fun kind _ => by rw [Series.count_of_ofEvents read kind]; rfl
  · intro category name
    rw [devices]
    exact mem_ofCategory_of_marks read category name

/-! ## What questions leave alone -/

theorem snapshot_of_ask (s : Session) (q : Question) (now : Instant) :
    (s.advance (.ask q now)).snapshot = s.snapshot := by
  unfold advance
  cases became : s.operate (.ask q now) with
  | error fault => rfl
  | ok after =>
    obtain ⟨visibility, viewport, framed⟩ := q.answer_frame s now
    rw [← answer_of_operate became, framed]
    rfl

/-- Whatever is asked of a session, its snapshot stays. -/
theorem snapshot_of_asks (s : Session) (asked : List (Question × Instant)) :
    ((asked.map fun (q, now) => Operation.ask q now).foldl advance s).snapshot = s.snapshot := by
  induction asked generalizing s with
  | nil => rfl
  | cons first rest ih =>
    rw [List.map_cons, List.foldl_cons, ih]
    exact s.snapshot_of_ask first.1 first.2

/-- The legend of every timeline tells of all events of the snapshot, and of nothing else: each of
the six kinds with the number of events that report it, which leaves out those of an unknown state
alone, and for each category the devices that its events of a known state tell of, in ascending
order.  So the legends of two sessions with one snapshot are the same, and so are those of one
session before and after anything has been asked of it. -/
theorem legend_of_snapshot :
    (∀ (q : Question) (s s' : Session) (now : Instant) (t : Timeline),
      q.answer s now = (s', .ok (.timeline t)) → t.Legend s.snapshot.events) ∧
    (∀ (q₁ q₂ : Question) (s₁ s₂ s₁' s₂' : Session) (now₁ now₂ : Instant) (t₁ t₂ : Timeline),
      q₁.answer s₁ now₁ = (s₁', .ok (.timeline t₁)) →
      q₂.answer s₂ now₂ = (s₂', .ok (.timeline t₂)) → s₁.snapshot = s₂.snapshot →
      t₁.counts = t₂.counts ∧ t₁.devices = t₂.devices) ∧
    ∀ (q₁ q₂ : Question) (s s₁' s₂' : Session) (now₁ now₂ : Instant) (t₁ t₂ : Timeline)
      (asked : List (Question × Instant)),
      q₁.answer s now₁ = (s₁', .ok (.timeline t₁)) →
      q₂.answer ((asked.map fun (q, now) => Operation.ask q now).foldl advance s) now₂ =
        (s₂', .ok (.timeline t₂)) →
      t₁.counts = t₂.counts ∧ t₁.devices = t₂.devices := by
  have alike : ∀ (q₁ q₂ : Question) (s₁ s₂ s₁' s₂' : Session) (now₁ now₂ : Instant)
      (t₁ t₂ : Timeline), q₁.answer s₁ now₁ = (s₁', .ok (.timeline t₁)) →
      q₂.answer s₂ now₂ = (s₂', .ok (.timeline t₂)) → s₁.snapshot = s₂.snapshot →
      t₁.counts = t₂.counts ∧ t₁.devices = t₂.devices := by
    intro q₁ q₂ s₁ s₂ s₁' s₂' now₁ now₂ t₁ t₂ answered answered' same
    have legend := legend_of_answer answered
    rw [same] at legend
    exact legend.unique (legend_of_answer answered')
  refine ⟨fun q s s' now t answered => legend_of_answer answered, alike, ?_⟩
  intro q₁ q₂ s s₁' s₂' now₁ now₂ t₁ t₂ asked answered answered'
  exact alike q₁ q₂ s _ s₁' s₂' now₁ now₂ t₁ t₂ answered answered' (s.snapshot_of_asks asked).symm

/-- A hub that reports both as a door and as a WiFi client, a phone, and an oven in a state that
nobody knows. -/
def shared : Snapshot where
  doors := [⟨"e1", "hub", .known .doorOpen, "0"⟩]
  appliances := [⟨"e2", "oven", .unknown .appliance, "500"⟩]
  wifi := [⟨"e3", "hub", .known .wifiConnected, "1000"⟩,
    ⟨"e4", "phone", .known .wifiDisconnected, "2000"⟩]

def sharing : Session := [.begin noon, .finish ⟨1⟩ shared].foldl advance (fresh {} .utc {})

theorem shared_readable : shared.Readable where
  events := by decide +kernel
  samples := fun sample listed => by cases listed

theorem snapshot_sharing : sharing.snapshot = shared := by decide +kernel

theorem sharing_readable : sharing.snapshot.Readable := snapshot_sharing ▸ shared_readable

/-- Neither hiding the open door and zooming in nor choosing a device that is not drawn changes the
legend. -/
theorem legend_of_snapshot_sharing :
    ∃ s₁ s₂ s₃ t₁ t₂ t₃,
      Question.timeline.answer sharing noon = (s₁, .ok (.timeline t₁)) ∧
      Question.timeline.answer { sharing with visibility := { devices := .ofList ["oven"] } } noon =
        (s₂, .ok (.timeline t₂)) ∧
      Question.timeline.answer ((sharing.advance
        (.ask (.visibility (.toggleState .doorOpen)) noon)).advance
          (.ask (.viewport .zoomIn) noon)) evening = (s₃, .ok (.timeline t₃)) ∧
      t₁.counts = [(.doorOpen, 1), (.doorClosed, 0), (.applianceOn, 0), (.applianceOff, 0),
        (.wifiConnected, 1), (.wifiDisconnected, 1)] ∧
      "hub" ∈ t₁.devices.doors.toList ∧ "hub" ∈ t₁.devices.wifi.toList ∧
      "oven" ∉ t₁.devices.appliances.toList ∧
      (t₁.counts = t₂.counts ∧ t₁.devices = t₂.devices) ∧
      (t₁.counts = t₃.counts ∧ t₁.devices = t₃.devices) := by
  have still : ∀ action, Question.timeline ≠ .viewport action := fun action same => by cases same
  have later := sharing.snapshot_of_asks
    [(.visibility (.toggleState .doorOpen), noon), (.viewport .zoomIn, noon)]
  obtain ⟨s₁, t₁, first⟩ := exists_answer_of_readable sharing_readable rfl still noon
  obtain ⟨s₂, t₂, second⟩ := exists_answer_of_readable
    (s := { sharing with visibility := { devices := .ofList ["oven"] } }) sharing_readable rfl still
    noon
  obtain ⟨s₃, t₃, third⟩ :=
    exists_answer_of_readable (later.symm ▸ sharing_readable) rfl still evening
  obtain ⟨legend, alike, asked⟩ := legend_of_snapshot
  have told := legend _ _ _ _ _ first
  rw [snapshot_sharing] at told
  refine ⟨s₁, s₂, s₃, t₁, t₂, t₃, first, second, third, ?_, ?_, ?_, ?_, ?_, ?_⟩
  · rw [told.counts]
    decide
  · exact (told.devices .door "hub").mpr (by decide)
  · exact (told.devices .wifi "hub").mpr (by decide)
  · exact fun listed => absurd ((told.devices .appliance "oven").mp listed) (by decide)
  · exact alike _ _ _ _ _ _ _ _ _ _ first second rfl
  · exact asked _ _ _ _ _ _ _ _ _ _ first third

end Session

end HouseholdDashboard
