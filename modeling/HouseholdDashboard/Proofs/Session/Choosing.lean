import HouseholdDashboard.Proofs.Session.Legend
import HouseholdDashboard.Proofs.Session.Unzoomed

/-!
# Choosing devices

Devices are chosen by their names, and while none is chosen all are shown.  To choose all devices
therefore shows what to choose none does, and to choose the three categories one after another, in
any order, is to choose all (`all_devices_as_none`).  The latter holds of whole sessions too, since
after a timeline the filters can be changed at any moment (`exists_filtered`).
-/

namespace HouseholdDashboard

/-! ## Filters -/

namespace Visibility

variable {v : Visibility} {marks : List Mark} {name : String}

theorem showsDevice_iff : v.showsDevice name = true ↔ v.devices = .empty ∨ name ∈ v.devices := by
  rw [showsDevice, Bool.or_eq_true, Names.isEmpty_iff, Names.contains_iff]

/-- To choose all devices of a series shows the same of its marks as to choose none. -/
theorem marks_selectAll (v : Visibility) (w : Window) (marks : List Mark) :
    (VisibilityAction.selectAllDevices.apply v marks).marks w marks =
      (VisibilityAction.clearDevices.apply v marks).marks w marks := by
  unfold Visibility.marks
  refine List.filter_congr ?_
  intro m listed
  have all : (VisibilityAction.selectAllDevices.apply v marks).showsDevice m.device = true := by
    refine showsDevice_iff.mpr (.inr ?_)
    exact Names.mem_ofList.mpr (Series.mem_allDevices.mpr ⟨m, listed, rfl⟩)
  have none : (VisibilityAction.clearDevices.apply v marks).showsDevice m.device = true :=
    showsDevice_iff.mpr (.inl rfl)
  rw [passes, passes, all, none]
  rfl

/-- To choose categories one after another adds the devices of each, and changes nothing else. -/
theorem foldl_selectCategory (marks : List Mark) (order : List Category) (v : Visibility) :
    ∃ devices : Names,
      order.foldl (fun v c => (VisibilityAction.selectCategory c).apply v marks) v =
        { v with devices } ∧
      ∀ x, x ∈ devices ↔ x ∈ v.devices ∨ ∃ c ∈ order, x ∈ Series.devices marks c := by
  induction order generalizing v with
  | nil => exact ⟨v.devices, rfl, fun x => by simp⟩
  | cons c order ih =>
    obtain ⟨devices, became, members⟩ := ih ((VisibilityAction.selectCategory c).apply v marks)
    refine ⟨devices, became, ?_⟩
    intro x
    have added : x ∈ ((VisibilityAction.selectCategory c).apply v marks).devices ↔
        x ∈ v.devices ∨ x ∈ Series.devices marks c := by
      rw [VisibilityAction.apply, addDevices, Names.mem_insertAll, Series.ofCategory_ofMarks]
      rfl
    rw [members, added, List.exists_mem_cons_iff, or_assoc]

/-- To choose all categories, in any order, is to choose all devices. -/
theorem foldl_selectCategory_all {order : List Category} (complete : ∀ c, c ∈ order)
    (none : v.devices = .empty) :
    order.foldl (fun v c => (VisibilityAction.selectCategory c).apply v marks) v =
      VisibilityAction.selectAllDevices.apply v marks := by
  obtain ⟨devices, became, members⟩ := foldl_selectCategory marks order v
  have all : devices = .ofList (Series.allDevices marks).toList := by
    apply Names.ext
    intro x
    rw [members, none, Names.mem_ofList, Names.mem_toList, Series.mem_allDevices]
    simp only [Names.not_mem_empty, false_or, Series.mem_devices]
    constructor
    · rintro ⟨c, _, m, listed, _, device⟩
      exact ⟨m, listed, device⟩
    · rintro ⟨m, listed, device⟩
      exact ⟨m.category, complete _, m, listed, rfl, device⟩
  rw [became, all]
  rfl

end Visibility

/-- Whether a timeline reports as chosen the devices of all three lists, each once and in ascending
order. -/
structure Timeline.SelectsAll (t : Timeline) : Prop where
  ascending : t.selected.toList.Pairwise (· < ·)
  merged : t.selected.toList.Perm
    (t.devices.doors.toList ++ t.devices.appliances.toList ++ t.devices.wifi.toList).dedup

theorem Timeline.selectsAll_of_marks {t : Timeline} {marks : List Mark}
    (devices : t.devices = .ofMarks marks)
    (selected : t.selected = .ofList (Series.allDevices marks).toList) : t.SelectsAll where
  ascending := t.selected.ascending
  merged := by
    refine (List.perm_ext_iff_of_nodup t.selected.nodup (List.nodup_dedup _)).mpr ?_
    intro x
    rw [List.mem_dedup, List.mem_append, List.mem_append, devices, selected]
    simp only [Names.mem_toList, Names.mem_ofList, DeviceLists.ofMarks, Series.mem_devices,
      Series.mem_allDevices]
    constructor
    · rintro ⟨m, listed, device⟩
      cases sort : m.category with
      | door => exact .inl (.inl ⟨m, listed, sort, device⟩)
      | appliance => exact .inl (.inr ⟨m, listed, sort, device⟩)
      | wifi => exact .inr ⟨m, listed, sort, device⟩
    · rintro ((⟨m, listed, _, device⟩ | ⟨m, listed, _, device⟩) | ⟨m, listed, _, device⟩) <;>
        exact ⟨m, listed, device⟩

namespace Session

variable {s s' : Session} {q : Question} {earlier now : Instant} {t : Timeline} {marks : List Mark}

/-! ## Drawings and filters -/

/-- What a timeline shows of the devices. -/
theorem devices_of_answer (answered : q.answer s now = (s', .ok (.timeline t))) :
    ∃ marks, s.marks = .ok marks ∧ s'.marks = .ok marks ∧ s'.snapshot = s.snapshot ∧
      s'.visibility = q.shown s.visibility marks ∧
      t.marks = s'.visibility.marks t.window marks ∧ t.devices = .ofMarks marks ∧
      t.selected = s'.visibility.devices := by
  obtain ⟨marks, v, read, _, became, drawn⟩ := Question.answer_timeline answered
  obtain ⟨window, _, _, _, shown, _⟩ := Timeline.draw_eq_ok drawn
  obtain ⟨_, devices, selected⟩ := Timeline.legend_of_draw drawn
  rw [← window] at shown
  subst became
  exact ⟨marks, read, read, rfl, rfl, shown, devices, selected⟩

/-- Without any data the extent is the last day, which is in reach. -/
theorem extent_inReach_of_nil
    (none : marks.map (·.time) ++ s.snapshot.solarHistory.map (·.time) = []) (now : Instant) :
    (s.extent marks now).InReach := by
  refine Extent.ofTimes_inReach ?_
  intro t listed
  rw [none] at listed
  rw [List.mem_singleton.mp listed]
  exact now.toMillis_bounds

/-- The filters can be changed if the viewport, once in line with the data, can be drawn. -/
theorem answer_of_draw {filter : VisibilityAction} (read : s.marks = .ok marks)
    (drawn : { s with visibility := filter.apply s.visibility marks }.draw
      (s.syncedViewport marks now) marks = .ok t) :
    (Question.visibility filter).answer s now =
      ({ s with
        visibility := filter.apply s.visibility marks
        viewport := some (s.syncedViewport marks now) }, .ok (.timeline t)) := by
  exact Question.answer_eq_timeline_iff.mpr ⟨rfl, drawing_of_draw read rfl drawn⟩

/-- A session stands at what its last timeline was drawn from. -/
theorem stands_of_answer (answered : q.answer s now = (s', .ok (.timeline t))) :
    ∃ marks v, s'.marks = .ok marks ∧ s'.viewport = some v ∧ v.InLine (s'.extent marks now) ∧
      s'.draw v marks = .ok t := by
  obtain ⟨marks, v, read, moved, rfl, drawn⟩ := Question.answer_timeline answered
  exact ⟨marks, v, read, rfl, moved_inLine (s.syncedViewport_inLine marks now) moved, drawn⟩

/-- After a timeline the filters can be changed at any moment, and while there are marks to see, the
window stays where it is. -/
theorem exists_filtered (answered : q.answer s earlier = (s', .ok (.timeline t)))
    (filter : VisibilityAction) (now : Instant) :
    ∃ s'' t', (Question.visibility filter).answer s' now = (s'', .ok (.timeline t')) ∧
      (t.marks ≠ [] → t'.window = t.window) := by
  obtain ⟨marks, v, read, seen, inLine, drawn⟩ := stands_of_answer answered
  obtain ⟨window, _, _, _, shown, _⟩ := Timeline.draw_eq_ok drawn
  by_cases data : marks.map (·.time) ++ s'.snapshot.solarHistory.map (·.time) = []
  · have reach := (s'.syncedViewport_inLine marks now).current_within.inReach
      (extent_inReach_of_nil data now)
    obtain ⟨t', drawn'⟩ :=
      { s' with visibility := filter.apply s'.visibility marks }.exists_draw reach marks
    refine ⟨_, t', answer_of_draw read drawn', fun some => ?_⟩
    rw [List.map_eq_nil_iff.mp (List.append_eq_nil_iff.mp data).1] at shown
    exact absurd shown some
  · have extent : s'.extent marks now = s'.extent marks earlier := Extent.ofTimes_now data _ _
    have synced : s'.syncedViewport marks now = v :=
      syncedViewport_of_inLine seen (extent ▸ inLine)
    obtain ⟨t', drawn'⟩ : ∃ t', { s' with
        visibility := filter.apply s'.visibility marks }.draw v marks = .ok t' :=
      Timeline.exists_draw drawn rfl
    refine ⟨_, t', answer_of_draw read (synced.symm ▸ drawn'), fun _ => ?_⟩
    rw [(Timeline.draw_eq_ok drawn').1, window]

/-! ## All devices -/

/-- To choose all devices is answered as to choose none. -/
theorem clear_of_selectAll
    (answered : (Question.visibility .selectAllDevices).answer s now = (s', .ok (.timeline t))) :
    t.SelectsAll ∧ ∃ s'' t',
      (Question.visibility .clearDevices).answer s now = (s'', .ok (.timeline t')) ∧
      t'.marks = t.marks := by
  obtain ⟨marks, v, read, moved, rfl, drawn⟩ := Question.answer_timeline answered
  cases moved
  obtain ⟨_, _, _, _, shown, _⟩ := Timeline.draw_eq_ok drawn
  obtain ⟨_, devices, selected⟩ := Timeline.legend_of_draw drawn
  obtain ⟨t', drawn'⟩ : ∃ t', { s with
      visibility := VisibilityAction.clearDevices.apply s.visibility marks }.draw
        (s.syncedViewport marks now) marks = .ok t' := Timeline.exists_draw drawn rfl
  refine ⟨Timeline.selectsAll_of_marks devices selected, _, t', answer_of_draw read drawn', ?_⟩
  rw [(Timeline.draw_eq_ok drawn').2.2.2.2.1, shown]
  exact (Visibility.marks_selectAll _ _ _).symm

/-- To choose the three categories, in any order and at any moments, is to choose all devices. -/
theorem selectAll_of_categories {a b c : Category} (order : [a, b, c].Perm Category.all)
    (none : s.visibility.devices = .empty)
    (answered : (Question.visibility (.selectCategory a)).answer s now =
      (s', .ok (.timeline t))) (later last : Instant) :
    ∃ s₂ t₂ s₃ t₃ marks,
      (Question.visibility (.selectCategory b)).answer s' later = (s₂, .ok (.timeline t₂)) ∧
      (Question.visibility (.selectCategory c)).answer s₂ last = (s₃, .ok (.timeline t₃)) ∧
      s.marks = .ok marks ∧
      s₃.visibility = VisibilityAction.selectAllDevices.apply s.visibility marks ∧
      t₃.SelectsAll := by
  obtain ⟨s₂, t₂, answered₂, _⟩ := exists_filtered answered (.selectCategory b) later
  obtain ⟨s₃, t₃, answered₃, _⟩ := exists_filtered answered₂ (.selectCategory c) last
  obtain ⟨marks, read, read', _, chosen, _⟩ := devices_of_answer answered
  obtain ⟨marks₂, read₂, read₂', _, chosen₂, _⟩ := devices_of_answer answered₂
  obtain ⟨marks₃, read₃, _, _, chosen₃, _, devices, selected⟩ := devices_of_answer answered₃
  obtain rfl : marks = marks₂ := Except.ok.inj (read'.symm.trans read₂)
  obtain rfl : marks = marks₃ := Except.ok.inj (read₂'.symm.trans read₃)
  have all : s₃.visibility = VisibilityAction.selectAllDevices.apply s.visibility marks := by
    have complete : ∀ d, d ∈ [a, b, c] := by
      intro d
      rw [order.mem_iff]
      cases d <;> decide
    rw [← Visibility.foldl_selectCategory_all complete none, chosen₃, chosen₂, chosen]
    rfl
  refine ⟨s₂, t₂, s₃, t₃, marks, answered₂, answered₃, read, all, ?_⟩
  refine Timeline.selectsAll_of_marks devices ?_
  rw [selected, all]
  rfl

/-- To choose all devices shows the same marks as to choose none, whatever else is hidden and
whichever window is shown.  To choose the three categories one after another, starting from none and
in any order, leaves exactly what choosing all devices does.  In both cases the timeline reports the
devices of its three lists as chosen, each once and in ascending order. -/
theorem all_devices_as_none :
    (∀ (marks : List Mark) (v : Visibility) (w : Window),
      (VisibilityAction.selectAllDevices.apply v marks).marks w marks =
        (VisibilityAction.clearDevices.apply v marks).marks w marks) ∧
    (∀ (marks : List Mark) (v : Visibility) (order : List Category), order.Perm Category.all →
      v.devices = .empty →
      order.foldl (fun v c => (VisibilityAction.selectCategory c).apply v marks) v =
        VisibilityAction.selectAllDevices.apply v marks) ∧
    (∀ (s s' : Session) (now : Instant) (t : Timeline),
      (Question.visibility .selectAllDevices).answer s now = (s', .ok (.timeline t)) →
      t.SelectsAll ∧ ∃ s'' t',
        (Question.visibility .clearDevices).answer s now = (s'', .ok (.timeline t')) ∧
        t'.marks = t.marks) ∧
    ∀ (s s₁ : Session) (t₁ : Timeline) (a b c : Category) (n₁ n₂ n₃ : Instant),
      [a, b, c].Perm Category.all → s.visibility.devices = .empty →
      (Question.visibility (.selectCategory a)).answer s n₁ = (s₁, .ok (.timeline t₁)) →
      ∃ s₂ t₂ s₃ t₃ marks,
        (Question.visibility (.selectCategory b)).answer s₁ n₂ = (s₂, .ok (.timeline t₂)) ∧
        (Question.visibility (.selectCategory c)).answer s₂ n₃ = (s₃, .ok (.timeline t₃)) ∧
        s.marks = .ok marks ∧
        s₃.visibility = VisibilityAction.selectAllDevices.apply s.visibility marks ∧
        t₃.SelectsAll := by
  refine ⟨fun marks v w => v.marks_selectAll w marks, ?_, ?_, ?_⟩
  · intro marks v order perm none
    refine Visibility.foldl_selectCategory_all (fun c => ?_) none
    rw [perm.mem_iff]
    cases c <;> decide
  · intro s s' now t answered
    exact clear_of_selectAll answered
  · intro s s₁ t₁ a b c n₁ n₂ n₃ order none answered
    exact selectAll_of_categories order none answered n₂ n₃

theorem exists_filtered_sharing (filter : VisibilityAction) (now : Instant) :
    ∃ s' t, (Question.visibility filter).answer sharing now = (s', .ok (.timeline t)) :=
  exists_answer_of_readable sharing_readable rfl (fun action same => by cases same) now

/-- The oven's state is unknown, so that no choice can tell of it. -/
theorem all_devices_as_none_sharing :
    ∃ s₁ t₁ s₂ t₂ s₃ t₃,
      (Question.visibility (.selectCategory .wifi)).answer sharing noon =
        (s₁, .ok (.timeline t₁)) ∧
      (Question.visibility (.selectCategory .appliance)).answer s₁ evening =
        (s₂, .ok (.timeline t₂)) ∧
      (Question.visibility (.selectCategory .door)).answer s₂ noon =
        (s₃, .ok (.timeline t₃)) ∧
      "phone" ∈ s₃.visibility.devices ∧ "oven" ∉ s₃.visibility.devices ∧ t₃.SelectsAll ∧
      ∃ s₄ t₄ s₅ t₅,
        (Question.visibility .selectAllDevices).answer s₃ noon = (s₄, .ok (.timeline t₄)) ∧
        (Question.visibility .clearDevices).answer s₃ noon = (s₅, .ok (.timeline t₅)) ∧
        t₅.marks = t₄.marks ∧
      ∀ marks, [.door, .wifi, .appliance].foldl
          (fun v c => (VisibilityAction.selectCategory c).apply v marks) {} =
        VisibilityAction.selectAllDevices.apply {} marks := by
  obtain ⟨_, inAnyOrder, likeNone, oneByOne⟩ := all_devices_as_none
  obtain ⟨s₁, t₁, first⟩ := exists_filtered_sharing (.selectCategory .wifi) noon
  obtain ⟨s₂, t₂, s₃, t₃, marks, second, third, read, chosen, selects⟩ :=
    oneByOne sharing s₁ t₁ .wifi .appliance .door noon evening noon (by decide) (by decide +kernel)
      first
  obtain ⟨s₄, t₄, all, _⟩ := exists_filtered third .selectAllDevices noon
  obtain ⟨_, s₅, t₅, none, same⟩ := likeNone s₃ s₄ noon t₄ all
  have named : ∀ name, name ∈ s₃.visibility.devices ↔ ∃ m ∈ marks, m.device = name := by
    intro name
    rw [chosen, VisibilityAction.apply, Visibility.selectDevices, Names.mem_ofList,
      Names.mem_toList, Series.mem_allDevices]
  have told : ∀ name, name ∈ s₃.visibility.devices ↔
      ∃ c : Category, c.HasDevice shared.events name := by
    intro name
    rw [named, ← snapshot_sharing]
    simp only [Snapshot.events, ← Series.mem_devices_of_ofEvents read, Series.mem_devices]
    constructor
    · rintro ⟨m, listed, device⟩
      exact ⟨m.category, m, listed, rfl, device⟩
    · rintro ⟨_, m, listed, _, device⟩
      exact ⟨m, listed, device⟩
  refine ⟨s₁, t₁, s₂, t₂, s₃, t₃, first, second, third, ?_, ?_, selects, s₄, t₄, s₅, t₅, all, none,
    same, fun marks => inAnyOrder marks {} _ (by decide) rfl⟩
  · exact (told "phone").mpr ⟨.wifi, by decide⟩
  · intro chosen
    obtain ⟨c, device⟩ := (told "oven").mp chosen
    cases c <;> exact absurd device (by decide)

end Session

end HouseholdDashboard
