import Exemplar.Calendar.Date

/-!
# Moments

An instant is a point in time; a moment is an instant as it is seen in a time
zone, which is an offset that is added to the time in Greenwich. What a moment
shows, its date and time of day, is read off the sum.

Seconds are added to the instant. Months are added to the date that the moment
shows, and the time of day is kept. Either way the result has to lie in the
years of the calendar, and has the same zone.
-/

namespace Exemplar.Calendar

/-- A point in time: the seconds since the beginning of 1970, and the
nanoseconds since the beginning of that second. A second that was put in at the
end of a minute is counted with the second before it, which then has twice as
many nanoseconds. -/
structure Instant where
  seconds : Int
  nanos : Nat
deriving DecidableEq, Repr, Inhabited

/-- An instant as it is seen at an offset of some seconds from Greenwich. -/
structure Moment where
  instant : Instant
  zone : Int
deriving DecidableEq, Repr, Inhabited

def nanosPerSecond : Nat := 1000000000

def secondsPerDay : Int := 86400

def epochDay : Int := Year.start 1970

def firstYear : Int := -262143

def lastYear : Int := 262142

namespace Instant

/-- The year of the instant, in Greenwich, is one of the calendar. -/
def inCalendar (i : Instant) : Bool :=
  let day := epochDay + i.seconds / secondsPerDay
  Year.start firstYear ≤ day && day < Year.start (lastYear + 1)

/-- The instant some seconds later. Time that is spent in a second that was put
in is over as soon as anything is added. -/
def addSeconds (i : Instant) (n : Int) : Instant :=
  if i.nanos < nanosPerSecond then ⟨i.seconds + n, i.nanos⟩
  else if 0 < n then ⟨i.seconds + n, i.nanos - nanosPerSecond⟩
  else if n < 0 then ⟨i.seconds + n + 1, i.nanos - nanosPerSecond⟩
  else i

end Instant

namespace Moment

def localSeconds (m : Moment) : Int :=
  epochDay * secondsPerDay + m.instant.seconds + m.zone

def day (m : Moment) : Int := m.localSeconds / secondsPerDay

def date (m : Moment) : Date := .ofDay m.day

def secondOfDay (m : Moment) : Nat := (m.localSeconds % secondsPerDay).toNat

def hour (m : Moment) : Nat := m.secondOfDay / 3600

def minute (m : Moment) : Nat := m.secondOfDay / 60 % 60

/-- The second of the minute. A second that was put in has the number behind
that of the second before it. -/
def second (m : Moment) : Nat := m.secondOfDay % 60 + m.instant.nanos / nanosPerSecond

/-- The millisecond of the second. A second that was put in stays at its last one. -/
def millisecond (m : Moment) : Nat := min (m.instant.nanos / 1000000) 999

def ofDate (d : Date) (secondOfDay nanos : Nat) (zone : Int) : Moment :=
  ⟨⟨(d.toDay - epochDay) * secondsPerDay + secondOfDay - zone, nanos⟩, zone⟩

def addSeconds? (m : Moment) (n : Int) : Option Moment :=
  let i := m.instant.addSeconds n
  if i.inCalendar then some ⟨i, m.zone⟩ else none

/-- The moment that shows the same time of day some months later, if the
calendar goes so far. -/
def addMonths? (m : Moment) (n : Int) : Option Moment :=
  if n = 0 then some m
  else
    let d := m.date.addMonths n
    let m := ofDate d m.secondOfDay m.instant.nanos m.zone
    if firstYear ≤ d.year ∧ d.year ≤ lastYear ∧ m.instant.inCalendar then some m else none

theorem secondOfDay_lt (m : Moment) : m.secondOfDay < 86400 := by
  rw [secondOfDay, secondsPerDay]
  omega

theorem day_mul_add_secondOfDay (m : Moment) :
    m.day * secondsPerDay + m.secondOfDay = m.localSeconds := by
  rw [day, secondOfDay, secondsPerDay]
  omega

theorem date_ofDate (d : Date) {secondOfDay : Nat} (h : secondOfDay < 86400) (nanos : Nat)
    (zone : Int) : (ofDate d secondOfDay nanos zone).date = d := by
  have hd : (ofDate d secondOfDay nanos zone).day = d.toDay := by
    simp only [day, localSeconds, ofDate, secondsPerDay]
    omega
  rw [date, hd, Date.ofDay_toDay]

theorem secondOfDay_ofDate (d : Date) {secondOfDay : Nat} (h : secondOfDay < 86400) (nanos : Nat)
    (zone : Int) : (ofDate d secondOfDay nanos zone).secondOfDay = secondOfDay := by
  simp only [Moment.secondOfDay, localSeconds, ofDate, secondsPerDay]
  omega

theorem ofDate_date (m : Moment) :
    ofDate m.date m.secondOfDay m.instant.nanos m.zone = m := by
  have h := m.day_mul_add_secondOfDay
  rcases m with ⟨⟨s, n⟩, z⟩
  simp only [ofDate, date, Date.toDay_ofDay, mk.injEq, Instant.mk.injEq, and_true]
  simp only [localSeconds, secondsPerDay] at h ⊢
  omega

end Moment

end Exemplar.Calendar
