import HouseholdDashboard.Time.Zone

/-!
# Zone histories

The history of a zone is a list of eras.  Each has a standard offset and a way of
saving daylight, and all but the last have an end.  A rule of daylight saving
recurs every year of its range.  Laying the rules of every era out over the years
1800 to 2099 gives the zone's changes.
-/

namespace HouseholdDashboard.Zone

/-- What a time of day in a history is measured on. -/
inductive Clock where
  /-- Standard time and the saving in force. -/
  | wall
  | standard
  | universal
deriving DecidableEq

/-- How far such a clock is ahead of UTC. -/
def Clock.ahead (clock : Clock) (standard saving : Int) : Int :=
  match clock with
  | .wall => standard + saving
  | .standard => standard
  | .universal => 0

/-- A moment given by a day and a time of day: seconds on the given clock. -/
structure Moment where
  seconds : Int
  clock : Clock
deriving DecidableEq

def Moment.toUtc (m : Moment) (standard saving : Int) : Int :=
  m.seconds - m.clock.ahead standard saving

/-- A day of a month, Sunday being weekday 0. -/
inductive DayRule where
  | exact (day : Nat)
  | last (weekday : Nat)
  | onOrAfter (weekday day : Nat)
  | onOrBefore (weekday day : Nat)
deriving DecidableEq

/-- The day that a rule picks in a month, counted from the start of 1970. -/
def DayRule.toDays (rule : DayRule) (year : Int) (month : Nat) : Int :=
  let back (days : Int) (weekday : Nat) : Int :=
    days - ((Date.weekday days : Int) - weekday) % 7
  match rule with
  | .exact day => Date.toDays ⟨year, month, day⟩
  | .last weekday => back (Date.toDays ⟨year, month, Date.daysInMonth year month⟩) weekday
  | .onOrAfter weekday day =>
    let days := Date.toDays ⟨year, month, day⟩
    days + ((weekday : Int) - Date.weekday days) % 7
  | .onOrBefore weekday day => back (Date.toDays ⟨year, month, day⟩) weekday

/-- Every year from `firstYear` to `lastYear`, the saving becomes `saving`. -/
structure Rule where
  firstYear : Int
  lastYear : Int
  month : Nat
  day : DayRule
  timeOfDay : Int
  clock : Clock
  saving : Int
deriving DecidableEq

/-- When a rule takes effect in a year. -/
def Rule.moment (rule : Rule) (year : Int) : Moment :=
  ⟨rule.day.toDays year rule.month * 86400 + rule.timeOfDay, rule.clock⟩

/-- How an era saves daylight. -/
inductive Saving where
  | fixed (amount : Int)
  | rules (rules : List Rule)

/-- A stretch of a zone's history, up to its end if it has one. -/
structure Era where
  standard : Int
  saving : Saving
  ending : Option Moment

/-- The years over which rules are laid out. -/
def years : List Int :=
  (List.range 300).map fun (n : Nat) => 1800 + (n : Int)

/-- The moments at which rules take effect, with the saving from then on, in ascending order. -/
def occurrences (rules : List Rule) : List (Moment × Int) :=
  years.flatMap fun year =>
    ((rules.filter fun r => r.firstYear ≤ year && year ≤ r.lastYear).map
      fun r => (r.moment year, r.saving)).mergeSort fun a b => a.1.seconds ≤ b.1.seconds

/-- How far the rules of an era have been followed. -/
structure Era.Progress where
  /-- The saving in force. -/
  saving : Int
  /-- The saving with which the era began. -/
  initial : Int
  /-- The changes after the beginning, the latest first. -/
  changes : List Change
  /-- Whether the era is over. -/
  isOver : Bool

/-- Follow one occurrence of a rule in an era that begins at `start`. -/
def Era.Progress.follow (era : Era) (start : Option Int) (p : Progress)
    (occurrence : Moment × Int) : Progress :=
  let second := occurrence.1.toUtc era.standard p.saving
  let ended := match era.ending with
    | some ending => decide (ending.toUtc era.standard p.saving ≤ second)
    | none => false
  if p.isOver || ended then { p with isOver := true }
  else
    let saving := occurrence.2
    match start with
    | some first =>
      if second ≤ first then { p with saving, initial := saving }
      else { p with saving, changes := ⟨second, era.standard + saving⟩ :: p.changes }
    | none => { p with saving, changes := ⟨second, era.standard + saving⟩ :: p.changes }

/-- Follow an era that begins at `start`. -/
def Era.run (era : Era) (start : Option Int) : Progress :=
  match era.saving with
  | .fixed amount => ⟨amount, amount, [], false⟩
  | .rules rules => (occurrences rules).foldl (Progress.follow era start) ⟨0, 0, [], false⟩

/-- The changes of a history that begins at `start`, in ascending order. -/
def changesFrom (start : Int) : List Era → List Change
  | [] => []
  | era :: rest =>
    let p := era.run (some start)
    ⟨start, era.standard + p.initial⟩ :: p.changes.reverse ++
      match era.ending with
      | some ending => changesFrom (ending.toUtc era.standard p.saving) rest
      | none => []

/--
Where local clocks reach a change no later than the one before it, both are one
change with the later offset.  The list holds the changes so far, the latest first.
-/
def joinChange (first : Int) (changes : List Change) (c : Change) : List Change :=
  match changes with
  | [] => [c]
  | last :: before =>
    let earlier := (before.head?.map (·.offset)).getD first
    if c.second + last.offset ≤ last.second + earlier then ⟨last.second, c.offset⟩ :: before
    else c :: last :: before

/-- The changes of a list, those at one local moment joined. -/
def joinChanges (first : Int) (changes : List Change) : List Change :=
  (changes.foldl (joinChange first) []).reverse

/-- The zone with a given history. -/
def ofEras? (name : String) : List Era → Option Zone
  | [] => none
  | era :: rest =>
    let p := era.run none
    let first := era.standard + p.initial
    let later := match era.ending with
      | some ending => changesFrom (ending.toUtc era.standard p.saving) rest
      | none => []
    ofChanges? name first (joinChanges first (p.changes.reverse ++ later))

end HouseholdDashboard.Zone
