import HouseholdDashboard.Time.Zone
import HouseholdDashboard.Number.Decimal

/-!
# Times in the RFC 3339 notation

Writers for the fields of a date and a clock, and a reader of complete texts such
as `2024-05-01T08:30:00.25+10:00`.  The reader takes exactly four digits of year, a
fraction of any length, of which nine digits count, and second 60 as a leap second.
-/

namespace HouseholdDashboard.Rfc3339

/-! ## Writing -/

/-- A number with leading zeros up to a width. -/
def padded (width n : Nat) : List Char :=
  let ds := Decimal.digits n
  List.replicate (width - ds.length) '0' ++ ds

/-- A year with at least four digits, and a sign outside the years 0 to 9999. -/
def yearText (year : Int) : List Char :=
  if 0 ≤ year ∧ year ≤ 9999 then padded 4 year.toNat
  else (if year < 0 then '-' else '+') :: padded 4 year.natAbs

def dateText (d : Date) : List Char :=
  yearText d.year ++ '-' :: padded 2 d.month ++ '-' :: padded 2 d.day

/-- Hours, minutes and seconds. -/
def clockText (secondOfDay : Nat) : List Char :=
  padded 2 (secondOfDay / 3600) ++ ':' :: padded 2 (secondOfDay / 60 % 60) ++
    ':' :: padded 2 (secondOfDay % 60)

/-- An offset in hours and minutes, rounded to the nearest minute, halves away from UTC. -/
def offsetText (offset : Int) : List Char :=
  let minutes := (offset.natAbs + 30) / 60
  (if offset < 0 then '-' else '+') :: padded 2 (minutes / 60) ++ ':' :: padded 2 (minutes % 60)

/-- A local time with its offset, to the second. -/
def localText (t : LocalTime) : List Char :=
  dateText t.date ++ 'T' :: clockText t.secondOfDay ++ offsetText t.offset

/-- An instant in UTC, to the millisecond; a leap second is second 60. -/
def utcText (t : Instant) : List Char :=
  let secondOfDay := (t.seconds % 86400).toNat
  let leap := t.nanos / 1000000000
  dateText (Date.ofDays (t.seconds / 86400)) ++ 'T' ::
    padded 2 (secondOfDay / 3600) ++ ':' :: padded 2 (secondOfDay / 60 % 60) ++
    ':' :: padded 2 (secondOfDay % 60 + leap) ++
    '.' :: padded 3 (t.nanos % 1000000000 / 1000000) ++ ['Z']

/-! ## Reading -/

/-- A number of exactly `width` digits at the front of a text. -/
def number? (width : Nat) (cs : List Char) : Option (Nat × List Char) :=
  let ds := cs.take width
  if ds.length = width ∧ ds.all Char.isDigit then some (Decimal.ofDigits ds, cs.drop width)
  else none

/-- The rest of a text that begins with a given character. -/
def after? (c : Char) : List Char → Option (List Char)
  | x :: rest => if x = c then some rest else none
  | [] => none

/-- An optional fraction of a second in nanoseconds; digits from the tenth on are dropped. -/
def fraction? (cs : List Char) : Option (Nat × List Char) :=
  match cs with
  | '.' :: rest =>
    let ds := rest.takeWhile Char.isDigit
    let kept := ds.take 9
    if ds.isEmpty then none
    else some (Decimal.ofDigits kept * Nat.pow 10 (9 - kept.length), rest.dropWhile Char.isDigit)
  | _ => some (0, cs)

/-- A complete offset in seconds: `Z`, or hours and minutes with a sign. -/
def offset? (cs : List Char) : Option Int :=
  match cs with
  | ['Z'] => some 0
  | ['z'] => some 0
  | sign :: rest =>
    if sign = '+' ∨ sign = '-' ∨ sign = '\u2212' then do
      let (hours, rest) ← number? 2 rest
      let rest ← after? ':' rest
      let (minutes, rest) ← number? 2 rest
      if rest.isEmpty ∧ hours ≤ 23 ∧ minutes ≤ 59 then
        let seconds : Int := hours * 3600 + minutes * 60
        some (if sign = '+' then seconds else -seconds)
      else none
    else none
  | [] => none

/-- What stands between a date and a time of day. -/
def isSeparator (c : Char) : Bool :=
  c = 'T' || c = 't' || c = ' '

/-- The instant that a complete text names. -/
def instant? (cs : List Char) : Option Instant := do
  let (year, cs) ← number? 4 cs
  let cs ← after? '-' cs
  let (month, cs) ← number? 2 cs
  let cs ← after? '-' cs
  let (day, cs) ← number? 2 cs
  let separator ← cs.head?
  let (hour, cs) ← if isSeparator separator then number? 2 (cs.drop 1) else none
  let cs ← after? ':' cs
  let (minute, cs) ← number? 2 cs
  let cs ← after? ':' cs
  let (second, cs) ← number? 2 cs
  let (nanos, cs) ← fraction? cs
  let offset ← offset? cs
  let date : Date := ⟨year, month, day⟩
  if date.Valid ∧ hour ≤ 23 ∧ minute ≤ 59 ∧ second ≤ 60 then
    let shown := date.toDays * 86400 + hour * 3600 + minute * 60 + min second 59
    Instant.ofParts? (shown - offset) (nanos + (second - 59) * 1000000000)
  else none

end HouseholdDashboard.Rfc3339
