import Mathlib.Data.List.DropRight
import HouseholdDashboard.Proofs.Query.Change

/-!
# Cutting a parameter out of a query

Any parameter can be cut out of the text of a query without a change to the others
(`Query.exists_cut`).  To cut out a value that no part of the view can have still changes what the
query sets if it was the last of its key: then the one before it comes to light, and that one may be
a value that the part can have (`ViewChange.cut_changes_nothing_iff`).
-/

namespace HouseholdDashboard

namespace Text

/-! ## Parts of a text -/

theorem not_mem_of_mem_split {separator : Char} {cs part : List Char}
    (mem : part ∈ split separator cs) : separator ∉ part := by
  induction cs generalizing part with
  | nil =>
    rw [List.mem_singleton.mp mem]
    exact List.not_mem_nil
  | cons c cs ih =>
    unfold split at mem
    by_cases same : c = separator
    · rw [if_pos same] at mem
      rcases List.mem_cons.mp mem with rfl | later
      · exact List.not_mem_nil
      · exact ih later
    · rw [if_neg same] at mem
      obtain ⟨first, parts, parted⟩ := List.exists_cons_of_ne_nil (split_ne_nil separator cs)
      rw [parted] at mem ih
      rcases List.mem_cons.mp mem with rfl | later
      · rw [List.mem_cons, not_or]
        exact ⟨Ne.symm same, ih List.mem_cons_self⟩
      · exact ih (List.mem_cons_of_mem first later)

/-- What stands around a part in a joined text does not depend on the part. -/
theorem exists_join_around (separator : Char) (left right : List (List Char)) :
    ∃ front back, (∀ part, join separator (left ++ part :: right) = front ++ part ++ back) ∧
      (back = [] ∨ ∃ rest, back = separator :: rest) := by
  induction left with
  | nil =>
    cases right with
    | nil => exact ⟨[], [], fun part => by simp [join], .inl rfl⟩
    | cons next right =>
      refine ⟨[], separator :: join separator (next :: right), ?_, .inr ⟨_, rfl⟩⟩
      intro part
      simp [join]
  | cons first left ih =>
    obtain ⟨front, back, joined, ends⟩ := ih
    refine ⟨first ++ separator :: front, back, ?_, ends⟩
    intro part
    rw [List.cons_append, join, joined]
    · simp
    · simp

/-- A part can be cut out of a text so that only an empty part is left of it. -/
theorem exists_split_cut {separator : Char} {cs part : List Char} {left right : List (List Char)}
    (parted : split separator cs = left ++ part :: right) :
    ∃ front back, cs = front ++ part ++ back ∧
      split separator (front ++ back) = left ++ [] :: right ∧
      (back = [] ∨ ∃ rest, back = separator :: rest) := by
  obtain ⟨front, back, joined, ends⟩ := exists_join_around separator left right
  refine ⟨front, back, ?_, ?_, ends⟩
  · rw [← joined, ← parted, join_split]
  · have free : ∀ q ∈ left ++ [] :: right, separator ∉ q := by
      intro q mem
      rcases List.mem_append.mp mem with before | here
      · exact not_mem_of_mem_split (parted ▸ List.mem_append_left _ before)
      · rcases List.mem_cons.mp here with rfl | after
        · exact List.not_mem_nil
        · exact not_mem_of_mem_split
            (parted ▸ List.mem_append_right _ (List.mem_cons_of_mem part after))
    have emptied := joined []
    rw [List.append_nil] at emptied
    rw [← emptied, split_join separator (by simp) free]

end Text

namespace Query

variable {key : String} {before after : List Parameter} {p : Parameter}

/-! ## Cutting the text -/

/-- Question marks before a text that does not begin with one do not belong to its parameters. -/
theorem parameters_of_marks {marks cs : List Char} (lead : ∀ c ∈ marks, c = '?')
    (begins : cs.dropWhile (· = '?') = cs) :
    parameters (String.ofList (marks ++ cs)) =
      ((Text.split '&' cs).filter fun part => !part.isEmpty).map parameter := by
  have skipped : ∀ c ∈ marks, decide (c = '?') = true := fun c mem => decide_eq_true (lead c mem)
  rw [parameters, String.toList_ofList, List.dropWhile_append_of_pos skipped, begins]

/-- Any parameter of a query can be cut out of its text, and the others stay as they are. -/
theorem exists_cut {query : String} (whole : parameters query = before ++ p :: after) :
    ∃ front part back, query.toList = front ++ part ++ back ∧ '&' ∉ part ∧ parameter part = p ∧
      parameters (String.ofList (front ++ back)) = before ++ after := by
  unfold parameters at whole
  obtain ⟨_, _, kept, rfl, here⟩ := List.map_eq_append_iff.mp whole
  obtain ⟨part, _, rfl, rfl, rfl⟩ := List.map_eq_cons_iff.mp here
  obtain ⟨left, _, parted, rfl, kept'⟩ := List.filter_eq_append_iff.mp kept
  obtain ⟨blank, right, rfl, empty, _, rfl⟩ := List.filter_eq_cons_iff.mp kept'
  rw [← List.append_assoc] at parted
  have free := Text.not_mem_of_mem_split
    (parted ▸ List.mem_append_right _ List.mem_cons_self : part ∈ Text.split '&' _)
  obtain ⟨front, back, text, cut, ends⟩ := Text.exists_split_cut parted
  have lead : ∀ c ∈ query.toList.takeWhile (· = '?'), c = '?' := fun c mem =>
    of_decide_eq_true (List.mem_takeWhile_imp (p := fun c => decide (c = '?')) mem)
  -- what is left begins with the character it began with, or with a separator
  have begins : (front ++ back).dropWhile (· = '?') = front ++ back := by
    cases front with
    | nil =>
      rcases ends with rfl | ⟨rest, rfl⟩
      · rfl
      · exact List.dropWhile_cons_of_neg (by decide)
    | cons c front =>
      have settled : (c :: front ++ part ++ back).dropWhile (· = '?') =
          c :: front ++ part ++ back := by rw [← text, List.dropWhile_idempotent]
      have noMark := List.dropWhile_eq_self_iff.mp settled (by simp)
      exact List.dropWhile_cons_of_neg noMark
  refine ⟨query.toList.takeWhile (· = '?') ++ front, part, back, ?_, free, rfl, ?_⟩
  · rw [List.append_assoc, List.append_assoc, ← List.append_assoc front, ← text,
      List.takeWhile_append_dropWhile]
  · rw [List.append_assoc, parameters_of_marks lead begins, cut, List.filter_append,
      List.filter_append, List.filter_eq_nil_iff.mpr empty]
    simp

/-! ## What comes to light -/

/-- Whether a value comes to light when a parameter is cut out between others: none of its key
follows, and the last one before it has a value that can be read. -/
def Uncovers (read : String → Option α) (key : String) (before after : List Parameter) (x : α) :
    Prop :=
  (∀ q ∈ after, q.1 ≠ key) ∧ (lastValue? key before).bind read = some x

/-- Other keys do not notice that a parameter is cut out. -/
theorem lastValue?_cut_other (other : p.1 ≠ key) (before after : List Parameter) :
    lastValue? key (before ++ p :: after) = lastValue? key (before ++ after) := by
  rw [lastValue?_append, lastValue?_cons, if_neg other, Option.or_none, lastValue?_append]

variable {α : Type} {read : String → Option α}

/-- A value that cannot be read counts for nothing if another one of its key follows.  If none does,
nothing is set while it is there, and without it what comes to light. -/
theorem read_cut_cases (same : p.1 = key) (unread : read p.2 = none)
    (before after : List Parameter) :
    ((∀ x, ¬ Uncovers read key before after x) ∧
      (lastValue? key (before ++ after)).bind read =
        (lastValue? key (before ++ p :: after)).bind read) ∨
    ((∀ x, Uncovers read key before after x ↔
        (lastValue? key (before ++ after)).bind read = some x) ∧
      (lastValue? key (before ++ p :: after)).bind read = none) := by
  rw [lastValue?_append, lastValue?_append, lastValue?_cons, if_pos same]
  cases later : lastValue? key after with
  | none =>
    refine .inr ⟨fun x => ?_, by simpa using unread⟩
    exact and_iff_right (lastValue?_eq_none_iff.mp later)
  | some value =>
    refine .inl ⟨fun x uncovered => ?_, rfl⟩
    rw [lastValue?_eq_none_iff.mpr uncovered.1] at later
    cases later

/-- What is set stays the same unless a value comes to light. -/
theorem read_cut_eq_iff (same : p.1 = key) (unread : read p.2 = none)
    (before after : List Parameter) :
    (lastValue? key (before ++ after)).bind read =
        (lastValue? key (before ++ p :: after)).bind read ↔
      ∀ x, ¬ Uncovers read key before after x := by
  rcases read_cut_cases same unread before after with ⟨covered, kept⟩ | ⟨uncovers, was⟩
  · exact iff_of_true kept covered
  · simp only [was, uncovers, Option.eq_none_iff_forall_ne_some, ne_eq]

/-- What is set, or else usual, stays the same unless an unusual value comes to light. -/
theorem read_cut_getD_eq_iff (same : p.1 = key) (unread : read p.2 = none) (usual : α)
    (before after : List Parameter) :
    ((lastValue? key (before ++ after)).bind read).getD usual =
        ((lastValue? key (before ++ p :: after)).bind read).getD usual ↔
      ∀ x, Uncovers read key before after x → x = usual := by
  rcases read_cut_cases same unread before after with ⟨covered, kept⟩ | ⟨uncovers, was⟩
  · exact iff_of_true (by rw [kept]) fun x uncovered => absurd uncovered (covered x)
  · simp only [was, uncovers, Option.getD_none]
    cases (lastValue? key (before ++ after)).bind read with
    | none => simp
    | some x => simp

end Query

/-! ## What a query sets without it -/

theorem Tab.ofName?_eq_none {text : String} (unknown : ∀ tab : Tab, text ≠ tab.name) :
    ofName? text = none := by
  unfold ofName?
  split
  · exact absurd rfl (unknown .overview)
  · exact absurd rfl (unknown .solar)
  · rfl

theorem View.hours?_eq_none {text : String}
    (unlisted : ∀ hours ∈ menu, Decimal.unsigned? text.toList ≠ some hours) :
    hours? text = none := by
  rw [Option.eq_none_iff_forall_ne_some]
  intro hours named
  obtain ⟨read, listed⟩ := Option.filter_eq_some_iff.mp named
  exact unlisted hours (List.contains_iff_mem.mp listed) read

namespace ViewChange

open Query

/-- To cut a tab that there is none of, or hours that are not on the menu, out of a query changes
what the query sets exactly if a value of the same key comes to light, and it changes the view that
the query names exactly if that value is not the usual one.  The parameter can always be cut out of
the text alone. -/
theorem cut_changes_nothing_iff {query : String} {before after : List Parameter} {p : Parameter}
    (whole : parameters query = before ++ p :: after) :
    (∃ front part back, query.toList = front ++ part ++ back ∧ '&' ∉ part ∧ parameter part = p ∧
      parameters (String.ofList (front ++ back)) = before ++ after) ∧
    ∀ shorter, parameters shorter = before ++ after →
      (p.1 = "tab" → (∀ tab : Tab, p.2 ≠ tab.name) →
        (ofQuery shorter = ofQuery query ↔
          ∀ tab, ¬ Uncovers Tab.ofName? "tab" before after tab) ∧
        (View.ofQuery shorter = View.ofQuery query ↔
          ∀ tab, Uncovers Tab.ofName? "tab" before after tab → tab = ({} : View).tab)) ∧
      (p.1 = "hours" → (∀ hours ∈ View.menu, Decimal.unsigned? p.2.toList ≠ some hours) →
        (ofQuery shorter = ofQuery query ↔
          ∀ hours, ¬ Uncovers View.hours? "hours" before after hours) ∧
        (View.ofQuery shorter = View.ofQuery query ↔
          ∀ hours, Uncovers View.hours? "hours" before after hours →
            hours = ({} : View).hours)) := by
  refine ⟨exists_cut whole, ?_⟩
  intro shorter cut
  simp only [View.ofQuery, ofQuery_eq, cut, whole, ViewChange.mk.injEq, View.mk.injEq]
  constructor
  · intro same unknown
    have unread := Tab.ofName?_eq_none unknown
    rw [lastValue?_cut_other (by rw [same]; decide : p.1 ≠ "hours"),
      read_cut_eq_iff same unread, read_cut_getD_eq_iff same unread]
    exact ⟨and_iff_left rfl, and_iff_left rfl⟩
  · intro same unlisted
    have unread := View.hours?_eq_none unlisted
    rw [lastValue?_cut_other (by rw [same]; decide : p.1 ≠ "tab"),
      read_cut_eq_iff same unread, read_cut_getD_eq_iff same unread]
    exact ⟨and_iff_right rfl, and_iff_right rfl⟩

/-- Hours that are not on the menu do no harm before others, and a tab that there is none of does
none to the view after the usual tab. -/
theorem cut_changes_nothing_iff_repeated :
    ofQuery "hours=24&hours=%2B72" = ofQuery "hours=24&hours=5&hours=%2B72" ∧
      View.ofQuery "tab=overview" = View.ofQuery "tab=overview&tab=bogus" ∧
      ofQuery "tab=overview" ≠ ofQuery "tab=overview&tab=bogus" := by
  have whole : parameters "hours=24&hours=5&hours=%2B72" =
      [("hours", "24")] ++ ("hours", "5") :: [("hours", "+72")] := by decide +kernel
  have wholeTab : parameters "tab=overview&tab=bogus" =
      [("tab", "overview")] ++ ("tab", "bogus") :: [] := by decide +kernel
  have unlisted : ∀ hours ∈ View.menu, Decimal.unsigned? "5".toList ≠ some hours := by
    decide +kernel
  have unknown : ∀ tab : Tab, "bogus" ≠ tab.name := fun tab => by cases tab <;> decide
  have overview : (lastValue? "tab" [("tab", "overview")]).bind Tab.ofName? = some .overview := by
    decide +kernel
  obtain ⟨_, changes⟩ := cut_changes_nothing_iff whole
  obtain ⟨_, alone⟩ := cut_changes_nothing_iff wholeTab
  obtain ⟨sets, _⟩ := (changes "hours=24&hours=%2B72" (by decide +kernel)).2 rfl unlisted
  obtain ⟨setsTab, namesTab⟩ := (alone "tab=overview" (by decide +kernel)).1 rfl unknown
  refine ⟨sets.mpr ?_, namesTab.mpr ?_, fun kept => ?_⟩
  · intro hours uncovered
    exact uncovered.1 ("hours", "+72") List.mem_cons_self rfl
  · intro tab uncovered
    exact Option.some.inj (uncovered.2.symm.trans overview)
  · exact setsTab.mp kept .overview ⟨fun _ mem => absurd mem List.not_mem_nil, overview⟩

/-- A tab that there is none of hides the one that was set before it. -/
theorem bogus_hides_solar :
    parameters "tab=solar&tab=bogus" = [("tab", "solar")] ++ ("tab", "bogus") :: [] ∧
      parameters "tab=solar" = [("tab", "solar")] ++ [] ∧ (∀ tab : Tab, "bogus" ≠ tab.name) ∧
      ofQuery "tab=solar" ≠ ofQuery "tab=solar&tab=bogus" ∧
      View.ofQuery "tab=solar" ≠ View.ofQuery "tab=solar&tab=bogus" := by
  refine ⟨by decide +kernel, by decide +kernel, fun tab => by cases tab <;> decide,
    by decide +kernel, by decide +kernel⟩

end ViewChange

end HouseholdDashboard
