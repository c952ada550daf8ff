/-!
# Years

Years are counted in the Gregorian calendar, extended to all times: the year
before year 1 is year 0. Days are counted from the first of January of year 1,
which is day 0, so `Year.start` is a closed form without special cases.

`Year.ofDay` guesses the year of a day from the average length of a year and
corrects the guess by one where it misses. The year is found: `start_ofDay_le`
and `lt_start_ofDay_succ`.
-/

namespace Exemplar.Calendar.Year

def isLeap (y : Int) : Bool :=
  y % 4 = 0 && (y % 100 ≠ 0 || y % 400 = 0)

def length (y : Int) : Nat :=
  if isLeap y then 366 else 365

def start (y : Int) : Int :=
  365 * (y - 1) + (y - 1) / 4 - (y - 1) / 100 + (y - 1) / 400

def ofDay (n : Int) : Int :=
  let guess := 400 * n / 146097 + 1
  if n < start guess then guess - 1
  else if start (guess + 1) ≤ n then guess + 1
  else guess

/-- Years follow each other without a gap. -/
theorem start_succ (y : Int) : start (y + 1) = start y + length y := by
  simp only [start, length, isLeap, Bool.and_eq_true, Bool.or_eq_true, decide_eq_true_eq]
  split <;> omega

theorem start_ofDay_le (n : Int) : start (ofDay n) ≤ n := by
  simp only [ofDay]
  split
  · simp only [start] at *
    omega
  · split <;> omega

theorem lt_start_ofDay_succ (n : Int) : n < start (ofDay n + 1) := by
  simp only [ofDay]
  split
  · simpa
  · split
    · simp only [start] at *
      omega
    · omega

theorem start_lt_start {y z : Int} (h : y < z) : start y < start z := by
  simp only [start]
  omega

theorem ofDay_eq {n y : Int} (h₁ : start y ≤ n) (h₂ : n < start (y + 1)) : ofDay n = y := by
  have h₃ := start_ofDay_le n
  have h₄ := lt_start_ofDay_succ n
  have h₅ : ¬ ofDay n < y := fun h => by
    rcases Int.lt_or_eq_of_le (Int.add_one_le_of_lt h) with h' | h'
    · have := start_lt_start h'
      omega
    · rw [h'] at h₄
      omega
  have h₆ : ¬ y < ofDay n := fun h => by
    rcases Int.lt_or_eq_of_le (Int.add_one_le_of_lt h) with h' | h'
    · have := start_lt_start h'
      omega
    · rw [h'] at h₂
      omega
  omega

end Exemplar.Calendar.Year
