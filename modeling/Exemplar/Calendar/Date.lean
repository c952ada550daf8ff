import Exemplar.Calendar.Year

/-!
# Dates

A date is a day of a month of a year, with months and days of the month counted
from zero. The day is one of the days that the month has, so there is no date
for the end of a short month that would have to be ruled out elsewhere.

Dates and days are two ways to write the same thing: `Date.toDay` adds up what
is over before a date, `Date.ofDay` takes it off again year by year and month
by month, and each undoes the other.
-/

namespace Exemplar.Calendar

namespace Month

def lengths (year : Int) : List Nat :=
  [31, if Year.isLeap year then 29 else 28, 31, 30, 31, 30, 31, 31, 30, 31, 30, 31]

/-- The number of days of a month. There are none in a month that a year does
not have. -/
def length (year : Int) (month : Nat) : Nat :=
  (lengths year)[month]?.getD 0

/-- The number of days of a year that are over when a month begins. -/
def start (year : Int) : (month : Nat) → Nat
  | 0 => 0
  | month + 1 => start year month + length year month

/-- The month of a day of the year, and the day of the month. The months are tried from a
last one backwards. -/
def locate (year : Int) (day : Nat) : (last : Nat) → Nat × Nat
  | 0 => (0, day)
  | month + 1 =>
    if day < start year (month + 1) then locate year day month
    else (month + 1, day - start year (month + 1))

theorem start_succ (year : Int) (month : Nat) :
    start year (month + 1) = start year month + length year month := rfl

theorem start_mono (year : Int) {month month' : Nat} (h : month ≤ month') :
    start year month ≤ start year month' := by
  induction h with
  | refl => exact Nat.le_refl _
  | step _ ih => exact Nat.le_add_right_of_le ih

theorem start_twelve (year : Int) : start year 12 = Year.length year := by
  simp only [start, length, lengths, Year.length]
  split <;> rfl

theorem start_locate (year : Int) (day last : Nat) :
    start year (locate year day last).1 + (locate year day last).2 = day := by
  induction last with
  | zero => exact Nat.zero_add day
  | succ month ih =>
    rw [locate]
    split
    · exact ih
    · next h => exact Nat.add_sub_cancel' (Nat.le_of_not_lt h)

theorem locate_lt {year : Int} {day last : Nat} (h : day < start year (last + 1)) :
    (locate year day last).2 < length year (locate year day last).1 := by
  induction last with
  | zero => simpa [start, locate] using h
  | succ month ih =>
    rw [locate]
    split
    · next hday => exact ih hday
    · rw [start_succ] at h
      dsimp only
      omega

theorem locate_start_add {year : Int} {month day last : Nat} (hmonth : month ≤ last)
    (hday : day < length year month) :
    locate year (start year month + day) last = (month, day) := by
  induction last with
  | zero =>
    obtain rfl := Nat.le_zero.1 hmonth
    rw [locate, start, Nat.zero_add]
  | succ last ih =>
    rw [locate]
    rcases Nat.lt_or_eq_of_le hmonth with hlt | rfl
    · have hnext := start_mono year hlt
      rw [start_succ] at hnext
      rw [if_pos (by omega), ih (Nat.le_of_lt_succ hlt)]
    · rw [if_neg (by omega), Nat.add_sub_cancel_left]

theorem length_pos (year : Int) {month : Nat} (h : month < 12) : 0 < length year month := by
  have h' : month < (lengths year).length := h
  rw [length, List.getElem?_eq_getElem h', Option.getD_some]
  have all : ∀ l ∈ lengths year, 0 < l := by
    simp only [lengths]
    split <;> decide
  exact all _ (List.getElem_mem h')

end Month

/-- A day of a month of a year. Months and days of the month are counted from zero. -/
structure Date where
  year : Int
  month : Nat
  day : Nat
  day_lt : day < Month.length year month
deriving DecidableEq, Repr

namespace Date

def dayOfYear (d : Date) : Nat := Month.start d.year d.month + d.day

def toDay (d : Date) : Int := Year.start d.year + d.dayOfYear

theorem sub_start_lt (n : Int) :
    (n - Year.start (Year.ofDay n)).toNat < Month.start (Year.ofDay n) 12 := by
  have h₁ := Year.start_ofDay_le n
  have h₂ := Year.lt_start_ofDay_succ n
  rw [Year.start_succ] at h₂
  rw [Month.start_twelve]
  omega

def placeOfDay (n : Int) : Nat × Nat :=
  Month.locate (Year.ofDay n) (n - Year.start (Year.ofDay n)).toNat 11

def ofDay (n : Int) : Date :=
  ⟨Year.ofDay n, (placeOfDay n).1, (placeOfDay n).2, Month.locate_lt (sub_start_lt n)⟩

theorem month_lt (d : Date) : d.month < 12 := by
  have h := d.day_lt
  rw [Month.length] at h
  cases hm : (Month.lengths d.year)[d.month]? with
  | none => simp [hm] at h
  | some l => simpa [Month.lengths] using (List.getElem?_eq_some_iff.1 hm).1

theorem dayOfYear_lt (d : Date) : d.dayOfYear < Year.length d.year := by
  have h := Month.start_mono d.year d.month_lt
  rw [Month.start_twelve, Month.start_succ] at h
  have := d.day_lt
  rw [dayOfYear]
  omega

theorem day_lt_31 (d : Date) : d.day < 31 := by
  have h := d.day_lt
  have hm := d.month_lt
  have : Month.length d.year d.month ≤ 31 := by
    rcases d with ⟨y, m, _, _⟩
    simp only [Month.length, Month.lengths] at *
    match m with
    | 0 | 1 | 2 | 3 | 4 | 5 | 6 | 7 | 8 | 9 | 10 | 11 => simp <;> split <;> omega
    | m + 12 => omega
  omega

theorem toDay_ofDay (n : Int) : (ofDay n).toDay = n := by
  have h := Month.start_locate (Year.ofDay n) (n - Year.start (Year.ofDay n)).toNat 11
  have h₁ := Year.start_ofDay_le n
  simp only [toDay, dayOfYear, ofDay, placeOfDay]
  omega

/-- The date with a day of the month as near as possible to another date, some
months later. -/
def addMonths (d : Date) (n : Int) : Date :=
  let months := 12 * d.year + d.month + n
  { year := months / 12
    month := (months % 12).toNat
    day := min d.day (Month.length (months / 12) (months % 12).toNat - 1)
    day_lt := by
      have h : (months % 12).toNat < 12 := by omega
      have := Month.length_pos (months / 12) h
      omega }

theorem eq_of {d e : Date} (hy : d.year = e.year) (hm : d.month = e.month)
    (hd : d.day = e.day) : d = e := by
  rcases d with ⟨y, m, n, h⟩
  rcases e with ⟨y', m', n', h'⟩
  cases hy
  cases hm
  cases hd
  rfl

/-- Different dates are different days. -/
theorem ofDay_toDay (d : Date) : ofDay d.toDay = d := by
  have hy : Year.ofDay d.toDay = d.year := by
    have := d.dayOfYear_lt
    apply Year.ofDay_eq
    · rw [toDay]
      omega
    · rw [Year.start_succ, toDay]
      omega
  have hn : (d.toDay - Year.start d.year).toNat = Month.start d.year d.month + d.day := by
    simp only [toDay, dayOfYear]
    omega
  have hl : Month.locate d.year (Month.start d.year d.month + d.day) 11 = (d.month, d.day) :=
    Month.locate_start_add (Nat.le_of_lt_succ d.month_lt) d.day_lt
  have hp : placeOfDay d.toDay = (d.month, d.day) := by
    rw [placeOfDay, hy, hn, hl]
  exact eq_of hy (congrArg Prod.fst hp) (congrArg Prod.snd hp)

end Date

/-- The day of the week, counted from Monday as zero. -/
def weekday (n : Int) : Nat := (n % 7).toNat

/-- The year that has most of the days of a week: the year of its Thursday. -/
def weekYear (n : Int) : Int := Year.ofDay (n - weekday n + 3)

end Exemplar.Calendar
