import Exemplar.Calendar.Moment

/-!
# Fields of a moment

What a date pattern can show of a moment. Most fields are numbers, which are
written with as many leading zeros as a width asks for and are never cut. A
pattern names a field by a run of one letter; the length of the run chooses
between the forms that the field has.
-/

namespace Exemplar.Calendar

/-- The decimal digits of a number, with zeros in front up to a width. -/
def padded (width n : Nat) : List Char :=
  let digits := Nat.toDigits 10 n
  List.replicate (width - digits.length) '0' ++ digits

inductive Quantity where
  | yearOfCentury
  | weekYearOfCentury
  | month
  | day
  | dayOfYear
  | weekday
  /-- From 0 to 23. -/
  | hour
  /-- From 1 to 24. -/
  | clockHour
  /-- From 0 to 11. -/
  | halfDayHour
  /-- From 1 to 12. -/
  | halfDayClockHour
  | minute
  | second
  | millisecond
deriving DecidableEq, Repr

/-- An hour on a clock that shows its last hour where others show zero. -/
def onClock (hours n : Nat) : Nat :=
  if n % hours = 0 then hours else n % hours

def Quantity.value (m : Moment) : Quantity → Nat
  | .yearOfCentury => (m.date.year % 100).toNat
  | .weekYearOfCentury => (weekYear m.day % 100).toNat
  | .month => m.date.month + 1
  | .day => m.date.day + 1
  | .dayOfYear => m.date.dayOfYear + 1
  | .weekday => Calendar.weekday m.day + 1
  | .hour => m.hour
  | .clockHour => onClock 24 m.hour
  | .halfDayHour => m.hour % 12
  | .halfDayClockHour => onClock 12 m.hour
  | .minute => m.minute
  | .second => m.second
  | .millisecond => m.millisecond

inductive ZoneStyle where
  /-- Hours, minutes, and seconds if there are any, between colons. -/
  | exact
  /-- Hours and minutes, to the nearest minute. -/
  | basic
  /-- Hours, without what is over. -/
  | hours
  /-- Hours and minutes with a colon, to the nearest minute. -/
  | extended
deriving DecidableEq, Repr

def ZoneStyle.render (style : ZoneStyle) (zone : Int) : List Char :=
  let seconds := zone.natAbs
  let minutes := (seconds + 30) / 60
  (if zone < 0 then '-' else '+') ::
    match style with
    | .exact => padded 2 (seconds / 3600) ++ ':' :: padded 2 (seconds / 60 % 60) ++
        if seconds % 60 = 0 then [] else ':' :: padded 2 (seconds % 60)
    | .basic => padded 2 (minutes / 60) ++ padded 2 (minutes % 60)
    | .hours => padded 2 (seconds / 3600)
    | .extended => padded 2 (minutes / 60) ++ ':' :: padded 2 (minutes % 60)

inductive Field where
  | year
  | weekYear
  | monthName (full : Bool)
  | weekdayName (full : Bool)
  | halfDay
  | number (quantity : Quantity) (width : Nat)
  | zone (style : ZoneStyle)
deriving DecidableEq, Repr

def monthNames : List String :=
  ["January", "February", "March", "April", "May", "June", "July", "August", "September",
    "October", "November", "December"]

def weekdayNames : List String :=
  ["Monday", "Tuesday", "Wednesday", "Thursday", "Friday", "Saturday", "Sunday"]

/-- A name from a list, or its first three letters. -/
def nameAt (names : List String) (full : Bool) (i : Nat) : List Char :=
  let name := (names[i]?.getD "").toList
  if full then name else name.take 3

/-- A year has four digits. It has a sign if it is before year 0 or if it has
more digits than that. -/
def renderYear (y : Int) : List Char :=
  if y < 0 then '-' :: padded 4 y.natAbs
  else if 9999 < y then '+' :: padded 4 y.natAbs
  else padded 4 y.natAbs

namespace Field

def render (m : Moment) : Field → List Char
  | .year => renderYear m.date.year
  | .weekYear => renderYear (Calendar.weekYear m.day)
  | .monthName full => nameAt monthNames full m.date.month
  | .weekdayName full => nameAt weekdayNames full (weekday m.day)
  | .halfDay => if m.hour < 12 then ['A', 'M'] else ['P', 'M']
  | .number q width => padded width (q.value m)
  | .zone style => style.render m.zone

/-- The field that a run of a letter names, if there is one. -/
def ofRun? (letter : Char) (length : Nat) : Option Field :=
  match letter with
  | 'y' => if length = 2 then some (.number .yearOfCentury 2) else some .year
  | 'Y' => if length = 2 then some (.number .weekYearOfCentury 2) else some .weekYear
  | 'M' | 'L' =>
    if length ≤ 2 then some (.number .month length) else some (.monthName (length != 3))
  | 'd' => some (.number .day (min length 2))
  | 'D' => some (.number .dayOfYear (if length = 1 then 1 else 3))
  | 'E' => some (.weekdayName (3 < length))
  | 'u' => some (.number .weekday 1)
  | 'a' => some .halfDay
  | 'H' => some (.number .hour (min length 2))
  | 'k' => some (.number .clockHour length)
  | 'K' => some (.number .halfDayHour length)
  | 'h' => some (.number .halfDayClockHour (min length 2))
  | 'm' => some (.number .minute (min length 2))
  | 's' => some (.number .second (min length 2))
  | 'S' => some (.number .millisecond length)
  | 'z' => some (.zone .exact)
  | 'Z' => some (.zone .basic)
  | 'X' =>
    match length with
    | 1 => some (.zone .hours)
    | 2 => some (.zone .basic)
    | 3 => some (.zone .extended)
    | _ => none
  | _ => none

end Field

end Exemplar.Calendar
