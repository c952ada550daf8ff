import Exemplar.Calendar.DatePattern
import Exemplar.Proofs.Calendar.Numeral

/-!
# Timestamps

A timestamp is what the pattern `yyyy-MM-dd'T'HH:mm:ss.SSS` shows of a moment. It is enough to
tell which instant that was, down to the millisecond: `Timestamp.read?` takes the text apart
and `Timestamp.instant?` finds the instant at which a zone shows this date and this time of
day.

The year is read up to the first character that is no digit, since it may have any number of
digits. Every other number fits into the width it is written with, and is read by its width.
A second that was put in is shown as a second of its own, which no day of the calendar has,
so such an instant is not read back.
-/

namespace Exemplar.Calendar

/-- What a timestamp says. Months and days are counted from one. -/
structure Timestamp where
  year : Int
  month : Nat
  day : Nat
  hour : Nat
  minute : Nat
  second : Nat
  millisecond : Nat
deriving DecidableEq, Repr

def Instant.floorMillisecond (i : Instant) : Instant :=
  ⟨i.seconds, i.nanos / 1000000 * 1000000⟩

namespace Timestamp

/-! ## Reading -/

/-- A number in all the digits that stand in front, and the rest. -/
def readDigits? (cs : List Char) : Option (Nat × List Char) :=
  let digits := cs.takeWhile Char.isDigit
  if digits = [] then none else (amount? digits).map (·, cs.dropWhile Char.isDigit)

def readYear? : List Char → Option (Int × List Char)
  | '-' :: cs => (readDigits? cs).map fun (n, rest) => (-n, rest)
  | '+' :: cs => (readDigits? cs).map fun (n, rest) => (n, rest)
  | cs => (readDigits? cs).map fun (n, rest) => (n, rest)

def readPart? (mark : Char) (width : Nat) (cs : List Char) : Option (Nat × List Char) :=
  if cs.head? = some mark ∧ width ≤ cs.tail.length then
    (amount? (cs.tail.take width)).map (·, cs.tail.drop width)
  else none

def read? (text : List Char) : Option Timestamp := do
  let (year, text) ← readYear? text
  let (month, text) ← readPart? '-' 2 text
  let (day, text) ← readPart? '-' 2 text
  let (hour, text) ← readPart? 'T' 2 text
  let (minute, text) ← readPart? ':' 2 text
  let (second, text) ← readPart? ':' 2 text
  let (millisecond, text) ← readPart? '.' 3 text
  if text = [] then some ⟨year, month, day, hour, minute, second, millisecond⟩ else none

def date? (t : Timestamp) : Option Date :=
  if h : 0 < t.month ∧ 0 < t.day ∧ t.day - 1 < Month.length t.year (t.month - 1) then
    some ⟨t.year, t.month - 1, t.day - 1, h.2.2⟩
  else none

/-- The instant at which a zone shows what a timestamp says, if there is one. -/
def instant? (t : Timestamp) (zone : Int) : Option Instant :=
  if t.hour < 24 ∧ t.minute < 60 ∧ t.second < 60 then
    t.date?.map fun d =>
      ⟨(d.toDay - epochDay) * secondsPerDay + (3600 * t.hour + 60 * t.minute + t.second) - zone,
        t.millisecond * 1000000⟩
  else none

/-! ## Writing -/

def render (t : Timestamp) : List Char :=
  renderYear t.year ++ '-' :: padded 2 t.month ++ '-' :: padded 2 t.day ++
    'T' :: padded 2 t.hour ++ ':' :: padded 2 t.minute ++ ':' :: padded 2 t.second ++
    '.' :: padded 3 t.millisecond

structure Fits (t : Timestamp) : Prop where
  month : t.month < 100
  day : t.day < 100
  hour : t.hour < 100
  minute : t.minute < 100
  second : t.second < 100
  millisecond : t.millisecond < 1000

theorem readDigits?_padded (width n : Nat) (rest : List Char) :
    readDigits? (padded width n ++ '-' :: rest) = some (n, '-' :: rest) := by
  have hdigits : ∀ c ∈ padded width n, c.isDigit = true := fun c hc => isDigit_of_mem_padded hc
  have hborder : ∀ c ∈ ('-' :: rest).head?, c.isDigit = false := by simp
  obtain ⟨htake, hdrop⟩ := Reading.takeWhile_dropWhile_append hdigits hborder
  rw [readDigits?, htake, hdrop, if_neg (padded_ne_nil width n), amount?_padded]
  rfl

theorem readYear?_padded (width n : Nat) (rest : List Char) :
    readYear? (padded width n ++ '-' :: rest) = some ((n : Int), '-' :: rest) := by
  obtain ⟨c, cs, hcs⟩ := List.exists_cons_of_ne_nil (padded_ne_nil width n)
  have hc : c.isDigit = true := isDigit_of_mem_padded (hcs ▸ List.mem_cons_self)
  have hread := readDigits?_padded width n rest
  rw [hcs, List.cons_append] at hread ⊢
  have hminus : c ≠ '-' := by rintro rfl; cases hc
  have hplus : c ≠ '+' := by rintro rfl; cases hc
  simp [readYear?, hminus, hplus, hread]

/-- A year has a sign where it has to, and the sign tells on which side of year 0 it is. -/
theorem readYear?_renderYear (y : Int) (rest : List Char) :
    readYear? (renderYear y ++ '-' :: rest) = some (y, '-' :: rest) := by
  rw [renderYear]
  split
  · next hneg =>
      have habs : -(y.natAbs : Int) = y := by omega
      rw [List.cons_append, readYear?, readDigits?_padded]
      simp only [Option.map_some, habs]
  · next hneg =>
      have habs : (y.natAbs : Int) = y := by omega
      split
      · rw [List.cons_append, readYear?, readDigits?_padded]
        simp only [Option.map_some, habs]
      · rw [readYear?_padded, habs]

theorem readPart?_padded {mark : Char} {width n : Nat} (hwidth : 0 < width) (h : n < 10 ^ width)
    (rest : List Char) :
    readPart? mark width (mark :: (padded width n ++ rest)) = some (n, rest) := by
  have hlength : (padded width n).length = width := length_padded hwidth h
  have hle : width ≤ (padded width n ++ rest).length := by simp [hlength]
  rw [readPart?, List.head?_cons, List.tail_cons, if_pos ⟨rfl, hle⟩, List.take_left' hlength,
    List.drop_left' hlength, amount?_padded]
  rfl

/-- A timestamp whose numbers fit is read back. -/
theorem read?_render {t : Timestamp} (h : t.Fits) : read? t.render = some t := by
  obtain ⟨hmonth, hday, hhour, hminute, hsecond, hmillisecond⟩ := h
  have hlast : readPart? '.' 3 ('.' :: padded 3 t.millisecond) = some (t.millisecond, []) := by
    simpa using readPart?_padded (by decide) hmillisecond []
  simp only [render, List.append_assoc, List.cons_append, read?, readYear?_renderYear]
  simp [readPart?_padded, hmonth, hday, hhour, hminute, hsecond, hlast]

end Timestamp

/-! ## What the pattern shows -/

namespace Moment

def timestamp (m : Moment) : Timestamp :=
  ⟨m.date.year, m.date.month + 1, m.date.day + 1, m.hour, m.minute, m.second, m.millisecond⟩

variable {m : Moment}

theorem second_lt (h : m.instant.nanos < nanosPerSecond) : m.second < 60 := by
  rw [second, Nat.div_eq_of_lt h]
  omega

theorem fits_timestamp (h : m.instant.nanos < nanosPerSecond) : m.timestamp.Fits where
  month := by
    have := m.date.month_lt
    simp only [timestamp]
    omega
  day := by
    have := m.date.day_lt_31
    simp only [timestamp]
    omega
  hour := by
    have := m.secondOfDay_lt
    simp only [timestamp, hour]
    omega
  minute := by
    simp only [timestamp, minute]
    omega
  second := Nat.lt_trans (second_lt h) (by decide)
  millisecond := by
    simp only [timestamp, millisecond]
    omega

/-- A zone shows a date and a time of day at one instant only. -/
theorem instant?_timestamp (h : m.instant.nanos < nanosPerSecond) :
    m.timestamp.instant? m.zone = some m.instant.floorMillisecond := by
  have hdate : m.timestamp.date? = some m.date := by
    rw [Timestamp.date?, dif_pos ⟨Nat.succ_pos _, Nat.succ_pos _, m.date.day_lt⟩]
    rfl
  have hday : m.date.toDay = m.day := Date.toDay_ofDay m.day
  have hsum := m.day_mul_add_secondOfDay
  have htime : 3600 * m.hour + 60 * m.minute + m.second = m.secondOfDay := by
    rw [hour, minute, second, Nat.div_eq_of_lt h]
    omega
  have hhour : m.hour < 24 := by
    have := m.secondOfDay_lt
    rw [hour]
    omega
  have hmillisecond : m.millisecond = m.instant.nanos / 1000000 := by
    rw [nanosPerSecond] at h
    rw [millisecond]
    omega
  have hminute : m.minute < 60 := by
    rw [minute]
    omega
  rw [Timestamp.instant?, if_pos ⟨hhour, hminute, second_lt h⟩, hdate]
  simp only [Option.map_some, timestamp, hday, hmillisecond, Instant.floorMillisecond,
    Option.some.injEq, Instant.mk.injEq, and_true]
  rw [localSeconds] at hsum
  simp only [secondsPerDay] at hsum ⊢
  omega

end Moment

def timestampPattern : String := "yyyy-MM-dd'T'HH:mm:ss.SSS"

theorem exists_parse_timestampPattern :
    ∃ p, DatePattern.parse timestampPattern = .ok p ∧
      ∀ m, p.format m = String.ofList m.timestamp.render := by
  refine ⟨⟨timestampPattern, [.field .year, .text '-', .field (.number .month 2), .text '-',
    .field (.number .day 2), .text 'T', .field (.number .hour 2), .text ':',
    .field (.number .minute 2), .text ':', .field (.number .second 2), .text '.',
    .field (.number .millisecond 3)]⟩, rfl, fun m => ?_⟩
  simp [DatePattern.format, Symbol.render, Field.render, Quantity.value, Timestamp.render,
    Moment.timestamp]

/-- A timestamp can be read back. What it shows of an instant in a zone leads to the instant
again, rounded down to the millisecond, so instants that look alike lie in the same
millisecond. -/
theorem timestamp_reads_back (i : Instant) (zone : Int) (h : i.nanos < nanosPerSecond) :
    ∃ p, DatePattern.parse timestampPattern = .ok p ∧
      ((Timestamp.read? (p.format ⟨i, zone⟩).toList).bind (·.instant? zone)) =
        some i.floorMillisecond ∧
      ∀ i' : Instant, i'.nanos < nanosPerSecond → p.format ⟨i', zone⟩ = p.format ⟨i, zone⟩ →
        i'.floorMillisecond = i.floorMillisecond := by
  obtain ⟨p, hparse, hformat⟩ := exists_parse_timestampPattern
  have hread : ∀ i : Instant, i.nanos < nanosPerSecond →
      ((Timestamp.read? (p.format ⟨i, zone⟩).toList).bind (·.instant? zone)) =
        some i.floorMillisecond := by
    intro i h
    have hfits : (Moment.timestamp ⟨i, zone⟩).Fits := Moment.fits_timestamp h
    rw [hformat, String.toList_ofList, Timestamp.read?_render hfits]
    exact Moment.instant?_timestamp h
  refine ⟨p, hparse, hread i h, ?_⟩
  intro i' h' htext
  have hboth := hread i' h'
  rw [htext, hread i h] at hboth
  exact (Option.some.inj hboth).symm

theorem timestamp_reads_back_before_year_zero :
    ∃ p, DatePattern.parse timestampPattern = .ok p ∧
      p.format ⟨⟨-62167219200, 999999999⟩, -1⟩ = "-0001-12-31T23:59:59.999" ∧
      ((Timestamp.read? "-0001-12-31T23:59:59.999".toList).bind (·.instant? (-1))) =
        some ⟨-62167219200, 999000000⟩ := by
  obtain ⟨p, hparse, hread, -⟩ :=
    timestamp_reads_back ⟨-62167219200, 999999999⟩ (-1) (by decide)
  obtain ⟨q, hparse', hformat⟩ := exists_parse_timestampPattern
  obtain rfl : p = q := Except.ok.inj (hparse.symm.trans hparse')
  have htext : p.format ⟨⟨-62167219200, 999999999⟩, -1⟩ = "-0001-12-31T23:59:59.999" := by
    rw [hformat]
    decide +kernel
  rw [htext] at hread
  exact ⟨p, hparse, htext, hread⟩

end Exemplar.Calendar
