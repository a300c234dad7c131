import Mathlib.Data.List.Induction
import HouseholdDashboard.Proofs.Query.Persist

/-!
# What a query sets

Of the parameters with one key the last one counts, and it counts also if its value is none that
the key can have (`ViewChange.ofQuery_eq`).  Hours that are not on the menu are never set.  So a view
of the menu is read back from any query into which it was written, whatever that query said before
(`View.ofQuery_persist`).
-/

namespace HouseholdDashboard

namespace Query

/-! ## The last value of a key -/

/-- The value of the last parameter with a key. -/
def lastValue? (key : String) (ps : List Parameter) : Option String :=
  (ps.reverse.find? fun p => p.1 = key).map (·.2)

theorem lastValue?_append (key : String) (ps qs : List Parameter) :
    lastValue? key (ps ++ qs) = (lastValue? key qs).or (lastValue? key ps) := by
  rw [lastValue?, List.reverse_append, List.find?_append, Option.map_or]
  rfl

theorem lastValue?_cons (key : String) (p : Parameter) (ps : List Parameter) :
    lastValue? key (p :: ps) =
      (lastValue? key ps).or (if p.1 = key then some p.2 else none) := by
  rw [← List.singleton_append, lastValue?_append]
  congr 1
  by_cases same : p.1 = key
  · simp [lastValue?, same]
  · simp [lastValue?, same]

theorem lastValue?_eq_none_iff {key : String} {ps : List Parameter} :
    lastValue? key ps = none ↔ ∀ p ∈ ps, p.1 ≠ key := by
  simp [lastValue?]

end Query

namespace View

/-- The hours of the menu are read as they are written. -/
theorem hours?_toString {hours : Nat} (listed : hours ∈ menu) :
    hours? (toString hours) = some hours := by
  have each : ∀ h ∈ menu, hours? (toString h) = some h := by decide +kernel
  exact each hours listed

theorem mem_menu_of_hours? {text : String} {hours : Nat} (named : hours? text = some hours) :
    hours ∈ menu := by
  have listed := (Option.filter_eq_some_iff.mp named).2
  exact List.contains_iff_mem.mp listed

end View

namespace Tab

theorem ofName?_name (tab : Tab) : ofName? tab.name = some tab := by
  cases tab <;> rfl

end Tab

namespace ViewChange

open Query

theorem follow_eq (change : ViewChange) (p : Parameter) :
    change.follow p =
      ⟨if p.1 = "tab" then Tab.ofName? p.2 else change.tab,
        if p.1 = "hours" then View.hours? p.2 else change.hours⟩ := by
  unfold follow
  split
  · rename_i tab
    simp [tab]
  · rename_i hours
    simp [hours]
  · rename_i notTab notHours
    rw [if_neg notTab, if_neg notHours]

/-- By induction from the end, since the last parameter of a key is the one that counts. -/
theorem foldl_follow_eq (ps : List Parameter) :
    ps.foldl follow {} =
      ⟨(lastValue? "tab" ps).bind Tab.ofName?, (lastValue? "hours" ps).bind View.hours?⟩ := by
  induction ps using List.reverseRecOn with
  | nil => rfl
  | append_singleton ps p ih =>
    rw [List.foldl_append, ih, List.foldl_cons, List.foldl_nil, follow_eq, lastValue?_append,
      lastValue?_append, lastValue?_cons, lastValue?_cons]
    congr 1
    · by_cases tab : p.1 = "tab"
      · simp [lastValue?, tab]
      · simp [lastValue?, tab]
    · by_cases hours : p.1 = "hours"
      · simp [lastValue?, hours]
      · simp [lastValue?, hours]

/-- A query sets what the last value of each key names. -/
theorem ofQuery_eq (query : String) :
    ofQuery query =
      ⟨(lastValue? "tab" (parameters query)).bind Tab.ofName?,
        (lastValue? "hours" (parameters query)).bind View.hours?⟩ :=
  foldl_follow_eq (parameters query)

/-- A query into which a view was written sets that view, whatever it said before. -/
theorem ofQuery_persist {v : View} (listed : v.hours ∈ View.menu) (query : String) :
    ofQuery (v.persist query) = ⟨some v.tab, some v.hours⟩ := by
  have tab : lastValue? "tab" v.parameters = some v.tab.name := rfl
  have hours : lastValue? "hours" v.parameters = some (toString v.hours) := rfl
  rw [ofQuery_eq, View.parameters_persist, lastValue?_append, lastValue?_append, tab, hours]
  simp only [Option.some_or, Option.bind_some, Tab.ofName?_name, View.hours?_toString listed]

/-- The hours that a query sets are on the menu. -/
theorem mem_menu_of_ofQuery {query : String} {hours : Nat}
    (set : (ofQuery query).hours = some hours) : hours ∈ View.menu := by
  rw [ofQuery_eq] at set
  obtain ⟨value, _, named⟩ := Option.bind_eq_some_iff.mp set
  exact View.mem_menu_of_hours? named

end ViewChange

namespace View

theorem ofQuery_hours (query : String) : (ofQuery query).hours ∈ menu := by
  unfold ofQuery
  cases set : (ViewChange.ofQuery query).hours with
  | none =>
    simp only [set, Option.getD_none]
    decide
  | some hours =>
    simp only [set, Option.getD_some]
    exact ViewChange.mem_menu_of_ofQuery set

/-- A view is read back from any query into which it was written. -/
theorem ofQuery_persist {v : View} (listed : v.hours ∈ menu) (query : String) :
    ofQuery (v.persist query) = v := by
  rw [ofQuery, ViewChange.ofQuery_persist listed]
  rfl

end View

end HouseholdDashboard
