import HouseholdDashboard.Proofs.Series.Order

/-!
# The devices of a series

A set of names is known by its members (`Names.ext`), and every operation on one by what it does to
them.  A series knows of a device what its marks tell: a kind and a name each (`Mark.sight`), and
these are exactly the ones that the events of a known state report (`sights_perm`).  So how many
marks there are of a kind, and which devices a category has, can be read off the events
(`count_of_ofEvents`, `mem_devices_of_ofEvents`), whatever their times and their order.
-/

namespace HouseholdDashboard

/-! ## Sets of names -/

namespace Names

instance : Membership String Names := ⟨fun s name => name ∈ s.toList⟩

variable {s t : Names} {name x : String} {names : List String}

theorem mem_toList : x ∈ s.toList ↔ x ∈ s := Iff.rfl

theorem nodup (s : Names) : s.toList.Nodup := by
  refine s.ascending.imp ?_
  intro a b less same
  rw [same] at less
  exact String.lt_irrefl b less

/-- Sets with the same members are equal. -/
theorem ext (same : ∀ x, x ∈ s ↔ x ∈ t) : s = t := by
  have perm : s.toList.Perm t.toList :=
    (List.perm_ext_iff_of_nodup s.nodup t.nodup).mpr same
  have lists : s.toList = t.toList :=
    perm.eq_of_pairwise (fun a b _ _ less more => absurd more (String.lt_asymm less))
      s.ascending t.ascending
  cases s
  cases t
  simp_all only

theorem not_mem_empty : x ∉ empty := List.not_mem_nil

theorem isEmpty_iff : s.isEmpty = true ↔ s = empty := by
  rw [isEmpty, List.isEmpty_iff]
  refine ⟨fun none => ext fun x => ?_, fun none => none ▸ rfl⟩
  rw [← mem_toList, none]
  rfl

theorem contains_iff : s.contains x = true ↔ x ∈ s := List.contains_iff_mem

theorem mem_insertInto_iff {xs : List String} : x ∈ insertInto name xs ↔ x = name ∨ x ∈ xs := by
  refine ⟨mem_insertInto, ?_⟩
  induction xs with
  | nil => simp [insertInto]
  | cons y rest ih =>
    intro mem
    unfold insertInto
    split
    · exact List.mem_cons.mpr mem
    · split
      · rcases mem with new | old
        · exact List.mem_cons_of_mem y (ih (.inl new))
        · rcases List.mem_cons.mp old with first | later
          · exact first ▸ List.mem_cons_self
          · exact List.mem_cons_of_mem y (ih (.inr later))
      · rename_i notLess notMore
        -- neither before nor after the first name, so it is that one
        have same : name = y :=
          String.le_antisymm (String.not_lt.mp notMore) (String.not_lt.mp notLess)
        exact mem.elim (fun new => new ▸ same ▸ List.mem_cons_self) id

theorem mem_insert : x ∈ s.insert name ↔ x = name ∨ x ∈ s := mem_insertInto_iff

theorem mem_erase : x ∈ s.erase name ↔ x ∈ s ∧ x ≠ name := by
  simp [← mem_toList, erase, List.mem_filter]

theorem mem_insertAll : x ∈ s.insertAll names ↔ x ∈ s ∨ x ∈ names := by
  unfold insertAll
  induction names generalizing s with
  | nil => simp
  | cons first rest ih =>
    rw [List.foldl_cons, ih, mem_insert, List.mem_cons]
    tauto

theorem mem_eraseAll : x ∈ s.eraseAll names ↔ x ∈ s ∧ x ∉ names := by
  unfold eraseAll
  induction names generalizing s with
  | nil => simp
  | cons first rest ih =>
    rw [List.foldl_cons, ih, mem_erase, List.mem_cons]
    tauto

theorem mem_ofList : x ∈ ofList names ↔ x ∈ names := by
  rw [ofList, mem_insertAll]
  exact or_iff_right not_mem_empty

/-- A set that is not empty has a member. -/
theorem ne_empty_iff : s ≠ empty ↔ ∃ x, x ∈ s := by
  constructor
  · intro some
    by_contra none
    refine some (ext fun x => ?_)
    exact iff_of_false (fun mem => none ⟨x, mem⟩) not_mem_empty
  · rintro ⟨x, mem⟩ none
    rw [none] at mem
    exact not_mem_empty mem

end Names

/-! ## Devices of marks -/

namespace Series

variable {marks : List Mark} {category : Category} {name : String}

theorem mem_devices : name ∈ devices marks category ↔
    ∃ m ∈ marks, m.category = category ∧ m.device = name := by
  simp [devices, Names.mem_ofList, and_assoc]

theorem mem_allDevices : name ∈ allDevices marks ↔ ∃ m ∈ marks, m.device = name := by
  simp [allDevices, Names.mem_ofList]

theorem ofCategory_ofMarks : (DeviceLists.ofMarks marks).ofCategory category =
    devices marks category := by
  cases category <;> rfl

end Series

/-! ## What marks and events tell of a device -/

/-- What a mark tells of a device. -/
def Mark.sight (m : Mark) : Kind × String := (m.kind, m.device)

/-- What an event tells of a device, if its state is known. -/
def Event.sight? (e : Event) : Option (Kind × String) :=
  e.state.kind?.map fun kind => (kind, e.device)

theorem Event.sight?_eq_some_iff {e : Event} {kind : Kind} {name : String} :
    e.sight? = some (kind, name) ↔ e.state = .known kind ∧ e.device = name := by
  cases known : e.state <;> simp [sight?, known, State.kind?]

/-- Marks tell what the events do that they show. -/
theorem Mark.sights_of_depicts {zone : Zone} {events : List Event} {ms : List Mark}
    (depicted : List.Forall₂ (Mark.Depicts zone) (events.filter Event.isKnown) ms) :
    ms.map Mark.sight = events.filterMap Event.sight? := by
  induction events generalizing ms with
  | nil =>
    cases depicted
    rfl
  | cons e events ih =>
    cases known : e.state with
    | unknown category =>
      have hidden : e.isKnown = false := by rw [Event.isKnown, known]; rfl
      rw [List.filter_cons_of_neg (by simp [hidden])] at depicted
      rw [List.filterMap_cons_none (by rw [Event.sight?, known]; rfl), ih depicted]
    | known kind =>
      have shown : e.isKnown = true := by rw [Event.isKnown, known]; rfl
      rw [List.filter_cons_of_pos shown] at depicted
      obtain ⟨m, rest, depicts, later, rfl⟩ := List.forall₂_cons_left_iff.mp depicted
      have told : e.sight? = some m.sight :=
        Event.sight?_eq_some_iff.mpr ⟨depicts.state, depicts.device.symm⟩
      rw [List.map_cons, List.filterMap_cons_some told, ih later]

namespace Series

variable {zone : Zone} {doors appliances wifi : List Event} {marks : List Mark}

/-- A series tells what the events of a known state do, and nothing else. -/
theorem sights_perm (read : ofEvents zone doors appliances wifi = .ok marks) :
    (marks.map Mark.sight).Perm ((doors ++ appliances ++ wifi).filterMap Event.sight?) := by
  obtain ⟨inOrder, depicted, sorted⟩ := ofEvents_eq_ok read
  rw [← Mark.sights_of_depicts depicted, sorted]
  exact (List.mergeSort_perm _ _).map _

/-- A series has as many marks of a kind as there are events that report this kind. -/
theorem count_of_ofEvents (read : ofEvents zone doors appliances wifi = .ok marks) (kind : Kind) :
    count marks kind = (doors ++ appliances ++ wifi).countP (·.state = .known kind) := by
  have told : count marks kind = (marks.map Mark.sight).countP (·.1 = kind) := by
    rw [List.countP_map]
    rfl
  rw [told, (sights_perm read).countP_eq, List.countP_filterMap]
  refine List.countP_congr fun e _ => ?_
  cases known : e.state <;> simp [Event.sight?, known, State.kind?]

end Series

/-- Whether some event of a known state tells of a device of this category and name. -/
def Category.HasDevice (category : Category) (events : List Event) (name : String) : Prop :=
  ∃ e ∈ events, e.isKnown = true ∧ e.category = category ∧ e.device = name

instance (category : Category) (events : List Event) (name : String) :
    Decidable (category.HasDevice events name) :=
  inferInstanceAs (Decidable (∃ e ∈ events, e.isKnown = true ∧ e.category = category ∧
    e.device = name))

namespace Series

variable {zone : Zone} {doors appliances wifi : List Event} {marks : List Mark}
  {category : Category} {name : String}

/-- The devices of a category are those that its events of a known state tell of. -/
theorem mem_devices_of_ofEvents (read : ofEvents zone doors appliances wifi = .ok marks) :
    name ∈ devices marks category ↔ category.HasDevice (doors ++ appliances ++ wifi) name := by
  have told : name ∈ devices marks category ↔
      ∃ kind, (kind, name) ∈ marks.map Mark.sight ∧ kind.category = category := by
    rw [mem_devices]
    constructor
    · rintro ⟨m, mem, sort, rfl⟩
      exact ⟨m.kind, List.mem_map.mpr ⟨m, mem, rfl⟩, sort⟩
    · rintro ⟨kind, listed, sort⟩
      obtain ⟨m, mem, same⟩ := List.mem_map.mp listed
      cases same
      exact ⟨m, mem, sort, rfl⟩
  rw [told]
  simp only [(sights_perm read).mem_iff, List.mem_filterMap, Event.sight?_eq_some_iff]
  constructor
  · rintro ⟨kind, ⟨e, mem, known, device⟩, sort⟩
    refine ⟨e, mem, ?_, ?_, device⟩
    · rw [Event.isKnown, known]
      rfl
    · rw [Event.category, known]
      exact sort
  · rintro ⟨e, mem, shown, sort, device⟩
    cases known : e.state with
    | unknown other => simp [Event.isKnown, known, State.kind?] at shown
    | known kind =>
      rw [Event.category, known] at sort
      exact ⟨kind, ⟨e, mem, known, device⟩, sort⟩

end Series

end HouseholdDashboard
