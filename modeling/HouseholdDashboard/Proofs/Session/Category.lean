import HouseholdDashboard.Proofs.Session.Choosing

/-!
# Choosing one category

A category is chosen, and given up, by the names of its devices, and a name knows nothing of a
category.  So choosing one shows whatever bears the name of one of its devices, also in another
category, and giving it up hides whatever it shares a name with, unless nothing stays chosen
(`category_choice_by_name`).  Neither is confined to the category where two categories share a name
(`category_choice_spills`).
-/

namespace HouseholdDashboard

theorem KindFlags.shows_usual (kind : Kind) : ({} : KindFlags).shows kind = true := by
  cases kind <;> rfl

/-! ## Names that are added and given up -/

namespace Visibility

variable {v : Visibility} {w : Window} {marks : List Mark} {m : Mark} {names : List String}
  {name : String}

theorem mem_marks : m ∈ v.marks w marks ↔ m ∈ marks ∧ w.contains m.time = true ∧
    v.kinds.shows m.kind = true ∧ v.showsDevice m.device = true := by
  simp only [Visibility.marks, List.mem_filter, passes, Bool.and_eq_true, and_assoc]

/-- Some names that are added to none are all that is shown. -/
theorem showsDevice_addDevices (none : v.devices = .empty) (some : ∃ x, x ∈ names) :
    (v.addDevices names).showsDevice name = true ↔ name ∈ names := by
  have members : ∀ x, x ∈ (v.addDevices names).devices ↔ x ∈ names := by
    intro x
    rw [addDevices, Names.mem_insertAll, none]
    exact or_iff_right Names.not_mem_empty
  rw [showsDevice_iff, members]
  refine or_iff_right ?_
  intro empty
  obtain ⟨x, listed⟩ := some
  have chosen := (members x).mpr listed
  rw [empty] at chosen
  exact Names.not_mem_empty chosen

/-- What was shown is hidden by giving up names exactly if its own is among them and some other
name stays chosen. -/
theorem hidden_by_removeDevices (shown : v.showsDevice name = true) :
    (v.removeDevices names).showsDevice name ≠ true ↔
      name ∈ v.devices ∧ name ∈ names ∧ ∃ other ∈ v.devices, other ∉ names := by
  have members : ∀ x, x ∈ (v.removeDevices names).devices ↔ x ∈ v.devices ∧ x ∉ names :=
    fun x => Names.mem_eraseAll
  have left : (v.removeDevices names).devices ≠ .empty ↔ ∃ other ∈ v.devices, other ∉ names := by
    rw [Names.ne_empty_iff]
    simp only [members]
  rw [Ne, showsDevice_iff, not_or, ← Ne, left, members]
  rw [showsDevice_iff] at shown
  constructor
  · rintro ⟨⟨other, chosen, kept⟩, gone⟩
    have mine : name ∈ v.devices := by
      rcases shown with none | mine
      · rw [none] at chosen
        exact absurd chosen Names.not_mem_empty
      · exact mine
    exact ⟨mine, by_contra fun kept => gone ⟨mine, kept⟩, other, chosen, kept⟩
  · rintro ⟨_, given, other⟩
    exact ⟨other, fun stays => stays.2 given⟩

end Visibility

namespace Session

variable {s s' : Session} {q : Question} {earlier now : Instant} {t : Timeline} {marks : List Mark}

/-! ## One category -/

/-- To choose a category shows whatever bears the name of one of its devices. -/
theorem mem_marks_of_selectCategory {c : Category} (none : s.visibility.devices = .empty)
    (some : ∃ name, c.HasDevice s.snapshot.events name)
    (answered : (Question.visibility (.selectCategory c)).answer s now =
      (s', .ok (.timeline t))) (read : s.marks = .ok marks) (m : Mark) :
    m ∈ t.marks ↔ m ∈ marks ∧ t.window.contains m.time = true ∧
      s.visibility.kinds.shows m.kind = true ∧ c.HasDevice s.snapshot.events m.device := by
  obtain ⟨marks', read', _, _, chosen, shown, _⟩ := devices_of_answer answered
  obtain rfl : marks = marks' := Except.ok.inj (read.symm.trans read')
  have named : ∀ name, name ∈ ((DeviceLists.ofMarks marks).ofCategory c).toList ↔
      c.HasDevice s.snapshot.events name := mem_ofCategory_of_marks read c
  have shows : ∀ name, s'.visibility.showsDevice name = true ↔
      c.HasDevice s.snapshot.events name := by
    intro name
    rw [chosen, ← named]
    refine Visibility.showsDevice_addDevices none ?_
    obtain ⟨device, told⟩ := some
    exact ⟨device, (named device).mpr told⟩
  have kinds : s'.visibility.kinds = s.visibility.kinds := by
    rw [chosen]
    rfl
  rw [shown, Visibility.mem_marks, shows, kinds]

/-- To give up a category hides what shares a name with it while something else stays chosen. -/
theorem hidden_by_clearCategory (answered : q.answer s earlier = (s', .ok (.timeline t)))
    (c : Category) (now : Instant) :
    ∃ s'' t', (Question.visibility (.clearCategory c)).answer s' now =
        (s'', .ok (.timeline t')) ∧
      ∀ m ∈ t.marks, m ∉ t'.marks ↔ m.device ∈ s'.visibility.devices ∧
        c.HasDevice s.snapshot.events m.device ∧
        ∃ name ∈ s'.visibility.devices, ¬ c.HasDevice s.snapshot.events name := by
  obtain ⟨s'', t', answered', window⟩ := exists_filtered answered (.clearCategory c) now
  refine ⟨s'', t', answered', ?_⟩
  intro m seen
  have same := window (List.ne_nil_of_mem seen)
  obtain ⟨marks, read, read', _, _, shown, _⟩ := devices_of_answer answered
  obtain ⟨marks', read'', _, _, chosen, shown', _⟩ := devices_of_answer answered'
  obtain rfl : marks = marks' := Except.ok.inj (read'.symm.trans read'')
  have named : ∀ name, name ∈ ((DeviceLists.ofMarks marks).ofCategory c).toList ↔
      c.HasDevice s.snapshot.events name := mem_ofCategory_of_marks read c
  rw [shown] at seen
  obtain ⟨listed, inside, kind, device⟩ := Visibility.mem_marks.mp seen
  have hidden : m ∉ t'.marks ↔ s''.visibility.showsDevice m.device ≠ true := by
    rw [shown', same, Visibility.mem_marks, chosen]
    exact not_congr ⟨fun all => all.2.2.2, fun shows => ⟨listed, inside, kind, shows⟩⟩
  rw [hidden, chosen]
  simp only [← named]
  exact Visibility.hidden_by_removeDevices device

/-- While nothing has been drawn yet, the first timeline shows the whole extent. -/
theorem contains_of_unseen {filter : VisibilityAction} (unseen : s.viewport = none)
    (answered : (Question.visibility filter).answer s now = (s', .ok (.timeline t)))
    (read : s.marks = .ok marks) {m : Mark} (listed : m ∈ marks) :
    t.window.contains m.time = true := by
  obtain ⟨marks', v, read', moved, _, drawn⟩ := Question.answer_timeline answered
  obtain rfl : marks = marks' := Except.ok.inj (read.symm.trans read')
  cases moved
  have whole : (s.syncedViewport marks now).current = s.extent marks now := by
    rw [syncedViewport, unseen]
    rfl
  rw [(Timeline.draw_eq_ok drawn).1, whole]
  exact extent_contains_mark listed

/-- Categories are chosen and given up by the names of their devices.  To choose one, starting from
none, shows exactly what bears the name of one of its devices, and so nothing of another category
unless they share a name.  To give one up hides what was shown before exactly if its name is chosen
and is that of a device of the category, and some other name stays chosen. -/
theorem category_choice_by_name (s : Session) (c : Category) :
    (∀ (now : Instant) (s' : Session) (t : Timeline), s.visibility.devices = .empty →
      (∃ name, c.HasDevice s.snapshot.events name) →
      (Question.visibility (.selectCategory c)).answer s now = (s', .ok (.timeline t)) →
      (∃ marks, s.marks = .ok marks ∧ ∀ m, m ∈ t.marks ↔ m ∈ marks ∧
        t.window.contains m.time = true ∧ s.visibility.kinds.shows m.kind = true ∧
        c.HasDevice s.snapshot.events m.device) ∧
      ((∀ (name : String) (other : Category), c.HasDevice s.snapshot.events name →
        other.HasDevice s.snapshot.events name → other = c) → ∀ m ∈ t.marks, m.category = c)) ∧
    ∀ (q : Question) (earlier : Instant) (s' : Session) (t : Timeline),
      q.answer s earlier = (s', .ok (.timeline t)) → ∀ now, ∃ s'' t',
        (Question.visibility (.clearCategory c)).answer s' now = (s'', .ok (.timeline t')) ∧
        ∀ m ∈ t.marks, m ∉ t'.marks ↔ m.device ∈ s'.visibility.devices ∧
          c.HasDevice s.snapshot.events m.device ∧
          ∃ name ∈ s'.visibility.devices, ¬ c.HasDevice s.snapshot.events name := by
  refine ⟨?_, fun q earlier s' t answered now => hidden_by_clearCategory answered c now⟩
  intro now s' t none some answered
  obtain ⟨marks, read, _⟩ := devices_of_answer answered
  have shown := mem_marks_of_selectCategory none some answered read
  refine ⟨⟨marks, read, shown⟩, ?_⟩
  intro apart m seen
  obtain ⟨listed, _, _, device⟩ := (shown m).mp seen
  have own : m.category.HasDevice s.snapshot.events m.device :=
    (Series.mem_devices_of_ofEvents read).mp (Series.mem_devices.mpr ⟨m, listed, rfl, rfl⟩)
  exact apart m.device m.category device own

/-- A gate, an oven and a phone, each with a name of its own. -/
def separate : Snapshot where
  doors := [⟨"e1", "gate", .known .doorOpen, "0"⟩]
  appliances := [⟨"e2", "oven", .known .applianceOn, "1000"⟩]
  wifi := [⟨"e3", "phone", .known .wifiConnected, "2000"⟩]

def separated : Session := [.begin noon, .finish ⟨1⟩ separate].foldl advance (fresh {} .utc {})

theorem snapshot_separated : separated.snapshot = separate := by decide +kernel

theorem separate_readable : separate.Readable where
  events := by decide +kernel
  samples := fun sample listed => by cases listed

/-- Of a gate, an oven and a phone, the oven alone is an appliance and is shown as one.  The hub of
`sharing` shares its name, but all that is chosen with it are WiFi clients, so that giving these up
hides nothing. -/
theorem category_choice_by_name_apart :
    (∃ s' t, (Question.visibility (.selectCategory .appliance)).answer separated noon =
        (s', .ok (.timeline t)) ∧ (∃ m ∈ t.marks, m.device = "oven") ∧
      ∀ m ∈ t.marks, m.category = .appliance) ∧
    ∃ s₁ t₁ s₂ t₂,
      (Question.visibility (.selectDevices ["hub", "phone"])).answer sharing noon =
        (s₁, .ok (.timeline t₁)) ∧
      (Question.visibility (.clearCategory .wifi)).answer s₁ noon = (s₂, .ok (.timeline t₂)) ∧
      ∀ m ∈ t₁.marks, m ∈ t₂.marks := by
  constructor
  · have readable : separated.snapshot.Readable := snapshot_separated ▸ separate_readable
    have none : separated.visibility.devices = .empty := by decide +kernel
    have unseen : separated.viewport = .none := by decide +kernel
    have kinds : separated.visibility.kinds = {} := by decide +kernel
    have oven : Category.appliance.HasDevice separated.snapshot.events "oven" := by
      rw [snapshot_separated]
      decide
    obtain ⟨s', t, answered⟩ := exists_answer_of_readable readable
      (q := .visibility (.selectCategory .appliance)) rfl (fun action same => by cases same) noon
    obtain ⟨⟨marks, read, shown⟩, alone⟩ :=
      (category_choice_by_name separated .appliance).1 noon s' t none ⟨"oven", oven⟩ answered
    obtain ⟨m, listed, _, device⟩ :=
      Series.mem_devices.mp ((Series.mem_devices_of_ofEvents read).mpr oven)
    refine ⟨s', t, answered, ⟨m, (shown m).mpr ?_, device⟩, alone ?_⟩
    · exact ⟨listed, contains_of_unseen unseen answered read listed,
        kinds ▸ KindFlags.shows_usual m.kind, device ▸ oven⟩
    · have names : ∀ e ∈ separate.events, ∀ e' ∈ separate.events, e'.device = e.device →
          e'.category = e.category := by decide
      rw [snapshot_separated]
      rintro name other ⟨e, mem, _, sort, named⟩ ⟨e', mem', _, sort', named'⟩
      rw [← sort, ← sort']
      exact names e mem e' mem' (named'.trans named.symm)
  · obtain ⟨s₁, t₁, chosen⟩ := exists_filtered_sharing (.selectDevices ["hub", "phone"]) noon
    obtain ⟨s₂, t₂, cleared, hidden⟩ :=
      (category_choice_by_name sharing .wifi).2 _ noon s₁ t₁ chosen noon
    refine ⟨s₁, t₁, s₂, t₂, chosen, cleared, ?_⟩
    intro m seen
    by_contra gone
    obtain ⟨_, _, name, kept, other⟩ := (hidden m seen).mp gone
    obtain ⟨marks, _, _, _, became, _⟩ := devices_of_answer chosen
    rw [became] at kept
    have listed : name ∈ ["hub", "phone"] := Names.mem_ofList.mp kept
    rw [snapshot_sharing] at other
    simp only [List.mem_cons, List.not_mem_nil, or_false] at listed
    rcases listed with rfl | rfl <;> exact other (by decide)

/-- To choose the doors shows the hub as a WiFi client too.  To give the doors up, while the hub and
the phone are chosen, hides it as a WiFi client too. -/
theorem category_choice_spills :
    Reachable (fresh {} .utc {}) sharing ∧ sharing.visibility.devices = .empty ∧
    Category.door.HasDevice sharing.snapshot.events "hub" ∧
    (∃ s' t, (Question.visibility (.selectCategory .door)).answer sharing noon =
        (s', .ok (.timeline t)) ∧ ∃ m ∈ t.marks, m.category = .wifi) ∧
    ∃ s₁ t₁ s₂ t₂,
      (Question.visibility (.selectDevices ["hub", "phone"])).answer sharing noon =
        (s₁, .ok (.timeline t₁)) ∧
      (Question.visibility (.clearCategory .door)).answer s₁ noon = (s₂, .ok (.timeline t₂)) ∧
      ∃ m ∈ t₁.marks, m.category = .wifi ∧ m ∉ t₂.marks := by
  have none : sharing.visibility.devices = .empty := by decide +kernel
  have unseen : sharing.viewport = .none := by decide +kernel
  have kinds : sharing.visibility.kinds = {} := by decide +kernel
  have door : Category.door.HasDevice sharing.snapshot.events "hub" := by
    rw [snapshot_sharing]
    decide
  have wifi : Category.wifi.HasDevice sharing.snapshot.events "hub" := by
    rw [snapshot_sharing]
    decide
  obtain ⟨s', t, selected⟩ := exists_filtered_sharing (.selectCategory .door) noon
  obtain ⟨s₁, t₁, chosen⟩ := exists_filtered_sharing (.selectDevices ["hub", "phone"]) noon
  obtain ⟨marks, read, _, _, became, shown, _⟩ := devices_of_answer chosen
  obtain ⟨m, listed, sort, device⟩ :=
    Series.mem_devices.mp ((Series.mem_devices_of_ofEvents read).mpr wifi)
  refine ⟨Reachable.start.advances _, none, door, ⟨s', t, selected, m, ?_, sort⟩, ?_⟩
  · refine (mem_marks_of_selectCategory none ⟨"hub", door⟩ selected read m).mpr ?_
    exact ⟨listed, contains_of_unseen unseen selected read listed,
      kinds ▸ KindFlags.shows_usual m.kind, device ▸ door⟩
  · have members : ∀ name, name ∈ s₁.visibility.devices ↔ name ∈ ["hub", "phone"] := by
      rw [became]
      exact fun name => Names.mem_ofList
    have seen : m ∈ t₁.marks := by
      rw [shown, Visibility.mem_marks, Visibility.showsDevice_iff, members, device, became]
      exact ⟨listed, contains_of_unseen unseen chosen read listed,
        kinds ▸ KindFlags.shows_usual m.kind, .inr (by decide)⟩
    obtain ⟨s₂, t₂, cleared, hidden⟩ := hidden_by_clearCategory chosen .door noon
    refine ⟨s₁, t₁, s₂, t₂, chosen, cleared, m, seen, sort, (hidden m seen).mpr ?_⟩
    have phone : ¬ Category.door.HasDevice sharing.snapshot.events "phone" := by
      rw [snapshot_sharing]
      decide
    rw [device]
    exact ⟨(members "hub").mpr (by decide), door, "phone", (members "phone").mpr (by decide), phone⟩

end Session

end HouseholdDashboard
