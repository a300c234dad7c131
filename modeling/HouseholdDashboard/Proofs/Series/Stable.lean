import HouseholdDashboard.Proofs.Series.Order

/-!
# A series is a stable sort

Marks of one time keep the order of their events: doors before appliances before WiFi, and within
each the order of the backend.  Order by time, and for every time the same marks in the same order,
leave only one list (`StablySorted.unique`).  So `ofEvents_eq_ok_iff` says all there is to say about
a series: when there is one, and which marks stand where in it.
-/

namespace HouseholdDashboard

/-! ## What a mark shows -/

/-- A mark shows an event in the lane of the event's category and under the backend's word for the
event's state. -/
structure Mark.Portrays (zone : Zone) (e : Event) (m : Mark) : Prop extends
    Mark.Depicts zone e m where
  category : m.category = e.category
  lane : m.category.lane = e.category.lane
  word : State.ofWord e.category m.kind.word = e.state

namespace Mark.Depicts

variable {zone : Zone} {e : Event} {m m' : Mark}

theorem portrays (depicts : Depicts zone e m) : Portrays zone e m := by
  have category : m.category = e.category := by
    rw [Event.category, depicts.state]
    rfl
  refine ⟨depicts, category, congrArg Category.lane category, ?_⟩
  rw [← category, depicts.state]
  exact State.ofWord_of_word rfl

/-- An event can be depicted in one way only. -/
theorem unique (depicts : Depicts zone e m) (depicts' : Depicts zone e m') : m = m' := by
  have kind : m.kind = m'.kind := State.known.inj (depicts.state.symm.trans depicts'.state)
  have time : m.time = m'.time := Option.some.inj (depicts.time.symm.trans depicts'.time)
  have display : m.display = m'.display := by rw [depicts.display, depicts'.display, time]
  have id : m.id = m'.id := depicts.id.trans depicts'.id.symm
  have device : m.device = m'.device := depicts.device.trans depicts'.device.symm
  cases m
  cases m'
  simp_all only

end Mark.Depicts

namespace Series

/-! ## Stable sorting -/

/-- Whether `ys` is `xs` in ascending order of time, with members of one time in the order that they
have in `xs`. -/
structure StablySorted (time : α → Millis) (xs ys : List α) : Prop where
  perm : ys.Perm xs
  ascending : ys.Pairwise fun a b => time a ≤ time b
  stable : ∀ t, ys.filter (time · = t) = xs.filter (time · = t)

variable {time : α → Millis} {xs ys zs : List α}

theorem stablySorted_mergeSort (time : α → Millis) (xs : List α) :
    StablySorted time xs (xs.mergeSort fun a b => time a ≤ time b) where
  perm := List.mergeSort_perm _ _
  ascending := pairwise_mergeSort_time time xs
  stable t := by
    have perm := (List.mergeSort_perm xs fun a b => time a ≤ time b).filter (time · = t)
    -- what has one time is in order already, so sorting keeps it as a part
    have level : (xs.filter (time · = t)).Pairwise fun a b => decide (time a ≤ time b) = true := by
      refine List.pairwise_of_forall_mem_list fun a at_t b at_t' => ?_
      have same : time a = time b := by
        rw [of_decide_eq_true (List.mem_filter.mp at_t).2,
          of_decide_eq_true (List.mem_filter.mp at_t').2]
      rw [same]
      exact decide_eq_true (Int.le_refl _)
    have part : (xs.filter (time · = t)).Sublist (xs.mergeSort fun a b => time a ≤ time b) :=
      List.sublist_mergeSort (trans_time time) (total_time time) level List.filter_sublist
    have kept := part.filter (time · = t)
    rw [List.filter_filter] at kept
    simp only [Bool.and_self] at kept
    exact (kept.eq_of_length perm.length_eq.symm).symm

namespace StablySorted

/-- Order by time, and the same order among members of one time, leave only one list. -/
theorem unique (sorted : StablySorted time xs ys) (sorted' : StablySorted time xs zs) :
    ys = zs := by
  have same : ∀ t, ys.filter (time · = t) = zs.filter (time · = t) := fun t =>
    (sorted.stable t).trans (sorted'.stable t).symm
  have perm := sorted.perm.trans sorted'.perm.symm
  have ascending := sorted.ascending
  have ascending' := sorted'.ascending
  clear sorted sorted'
  induction ys generalizing zs with
  | nil => exact perm.nil_eq
  | cons y ys ih =>
    cases zs with
    | nil => exact perm.eq_nil
    | cons z zs =>
      rw [List.pairwise_cons] at ascending ascending'
      -- the first of each is the earliest of all, and the first of its time
      have le : time y ≤ time z := by
        rcases List.mem_cons.mp (perm.mem_iff.mpr List.mem_cons_self) with rfl | later
        · exact Int.le_refl _
        · exact ascending.1 z later
      have ge : time z ≤ time y := by
        rcases List.mem_cons.mp (perm.mem_iff.mp List.mem_cons_self) with rfl | later
        · exact Int.le_refl _
        · exact ascending'.1 y later
      have at_once : time z = time y := Millis.ext (Int.le_antisymm ge le)
      have first : y = z := by
        have heads := congrArg List.head? (same (time y))
        simpa [List.filter_cons, at_once] using heads
      subst first
      congr 1
      refine ih (fun t => ?_) perm.cons_inv ascending.2 ascending'.2
      have tails := same t
      rw [List.filter_cons, List.filter_cons] at tails
      split at tails
      · exact List.tail_eq_of_cons_eq tails
      · exact tails

end StablySorted

/-! ## A series -/

theorem timed_of_ofEvents {zone : Zone} {doors appliances wifi : List Event} {ms : List Mark}
    (read : ofEvents zone doors appliances wifi = .ok ms) :
    ∀ e ∈ doors ++ appliances ++ wifi, e.isTimed = true := by
  cases first : (doors ++ appliances ++ wifi).find? (!·.isTimed) with
  | none => simpa only [List.find?_eq_none, Bool.not_eq_true', Bool.not_eq_false] using first
  | some e =>
    rw [ofEvents_of_untimed first] at read
    cases read

/-- There is a series exactly if the times of all events can be read.  It then consists of one mark
for each event of a known state, stably sorted by time, and of nothing else; and each mark shows its
own event. -/
theorem ofEvents_eq_ok_iff {zone : Zone} {doors appliances wifi : List Event} {ms : List Mark} :
    ofEvents zone doors appliances wifi = .ok ms ↔
      (∀ e ∈ doors ++ appliances ++ wifi, e.isTimed = true) ∧
      ∃ inOrder, List.Forall₂ (Mark.Portrays zone)
          ((doors ++ appliances ++ wifi).filter Event.isKnown) inOrder ∧
        StablySorted Mark.time inOrder ms := by
  constructor
  · intro read
    obtain ⟨inOrder, depicted, rfl⟩ := ofEvents_eq_ok read
    exact ⟨timed_of_ofEvents read, inOrder, depicted.imp fun _ _ => Mark.Depicts.portrays,
      stablySorted_mergeSort Mark.time inOrder⟩
  · rintro ⟨timed, inOrder, portrayed, sorted⟩
    obtain ⟨ms', read⟩ := exists_ofEvents zone timed
    obtain ⟨inOrder', depicted, rfl⟩ := ofEvents_eq_ok read
    have one_way : Relator.RightUnique (Mark.Depicts zone) := fun _ _ _ => Mark.Depicts.unique
    obtain rfl : inOrder = inOrder' :=
      one_way.forall₂ (portrayed.imp fun _ _ => Mark.Portrays.toDepicts) depicted
    rw [read, sorted.unique (stablySorted_mergeSort Mark.time inOrder)]

end Series

end HouseholdDashboard
