import Exemplar.Proofs.Calendar.Evaluation
import Exemplar.Proofs.Calendar.Spelling

/-!
# Where expressions lead

In a calendar without ends an expression leads somewhere from every moment: a base and the
steps behind it are moves, and the expression is their fold from the left. The calendar has
ends, and an expression has a value exactly if none of its moves goes past them; otherwise
the first move that does is reported. `evaluate_spelled` says both, for every spelling.

Seconds are added to the instant, which has to stay in the calendar. Months are added to the
date that is shown, and it has to stay in the calendar as well; it can be outside to begin
with, because the clock may be ahead of Greenwich on the last day, or behind on the first. A
shift by no months is therefore always possible. The code refuses shifts by very many months
without trying them, and from a moment that a clock can show they would lead out of the
calendar anyway: this is what `Regular` moments are needed for.
-/

namespace Exemplar.Calendar

def Base.days : Base → Int
  | .now => 0
  | .today => 0
  | .tomorrow => 1
  | .yesterday => -1

namespace TimeUnit

/-- The seconds of a unit, if it is a fixed time. -/
def seconds (unit : TimeUnit) : Nat :=
  match unit.span with
  | .seconds n => n
  | .months _ => 0

def months (unit : TimeUnit) : Nat :=
  match unit.span with
  | .seconds _ => 0
  | .months n => n

end TimeUnit

namespace Step

def seconds (s : Step) : Int := signed s.forward (s.amount * s.unit.seconds)

def months (s : Step) : Int := signed s.forward (s.amount * s.unit.months)

variable {s : Step} {n : Nat}

theorem seconds_eq (h : s.unit.span = .seconds n) :
    s.seconds = signed s.forward (s.amount * n) := by
  rw [seconds, TimeUnit.seconds, h]

theorem months_eq (h : s.unit.span = .months n) : s.months = signed s.forward (s.amount * n) := by
  rw [months, TimeUnit.months, h]

end Step

namespace Date

/-- The number of months that are over, counted from the beginning of year 0. -/
def monthIndex (d : Date) : Int := 12 * d.year + d.month

theorem monthIndex_addMonths (d : Date) (n : Int) :
    (d.addMonths n).monthIndex = d.monthIndex + n := by
  simp only [monthIndex, addMonths]
  omega

theorem addMonths_zero (d : Date) : d.addMonths 0 = d := by
  have hmonth := d.month_lt
  have hday := d.day_lt
  have hyear : (12 * d.year + d.month + 0) / 12 = d.year := by omega
  have hindex : ((12 * d.year + d.month + 0) % 12).toNat = d.month := by omega
  refine eq_of hyear hindex ?_
  simp only [addMonths, hyear, hindex]
  omega

end Date

namespace Moment

/-- The moment that steps start from, in a calendar without ends. -/
def start (m : Moment) (base? : Option Base) : Moment :=
  ⟨m.instant.addSeconds ((base?.elim 0 Base.days) * secondsPerDay), m.zone⟩

def move (m : Moment) (s : Step) : Moment :=
  match s.unit.span with
  | .seconds _ => ⟨m.instant.addSeconds s.seconds, m.zone⟩
  | .months _ => ofDate (m.date.addMonths s.months) m.secondOfDay m.instant.nanos m.zone

/-- The moment that some steps lead to, from left to right, in a calendar without ends. -/
def follow (m : Moment) (ss : List Step) : Moment := ss.foldl move m

/-- A step leads to an instant of the calendar and, if it goes by months, to a date of the
calendar. -/
def CanMove (m : Moment) (s : Step) : Prop :=
  (m.move s).instant.inCalendar = true ∧
    (s.months = 0 ∨ firstYear ≤ (m.move s).date.year ∧ (m.move s).date.year ≤ lastYear)

instance (m : Moment) (s : Step) : Decidable (m.CanMove s) :=
  inferInstanceAs (Decidable (_ ∧ (_ ∨ _ ∧ _)))

/-- Each of the steps can be taken where those in front of it lead. -/
def CanFollow : Moment → List Step → Prop
  | _, [] => True
  | m, s :: ss => m.CanMove s ∧ (m.move s).CanFollow ss

instance decidableCanFollow : (m : Moment) → (ss : List Step) → Decidable (m.CanFollow ss)
  | _, [] => .isTrue trivial
  | m, s :: ss =>
    have := decidableCanFollow (m.move s) ss
    inferInstanceAs (Decidable (_ ∧ _))

/-- A moment that a clock can show: an instant of the calendar, in a zone that is less than a
day off. -/
structure Regular (m : Moment) : Prop where
  inCalendar : m.instant.inCalendar = true
  zone_lt : m.zone.natAbs < 86400

variable {m r : Moment} {s : Step}

/-! ## One step -/

theorem move_seconds {n : Nat} (h : s.unit.span = .seconds n) :
    m.move s = ⟨m.instant.addSeconds s.seconds, m.zone⟩ := by
  rw [move, h]

theorem move_months {n : Nat} (h : s.unit.span = .months n) :
    m.move s = ofDate (m.date.addMonths s.months) m.secondOfDay m.instant.nanos m.zone := by
  rw [move, h]

theorem date_move_months {n : Nat} (h : s.unit.span = .months n) :
    (m.move s).date = m.date.addMonths s.months := by
  rw [move_months h]
  exact date_ofDate _ m.secondOfDay_lt _ _

theorem move_zero_months {n : Nat} (h : s.unit.span = .months n) (hzero : s.months = 0) :
    m.move s = m := by
  rw [move_months h, hzero, Date.addMonths_zero, ofDate_date]

/-- A step that is not refused leads where it leads in a calendar without ends. -/
theorem move_of_shift? (h : m.shift? s.forward s.amount s.unit.span = some r) : m.move s = r := by
  cases hspan : s.unit.span with
  | seconds n =>
      rw [hspan, shift?, addSeconds?_eq_some_iff, ← Step.seconds_eq hspan] at h
      rw [move_seconds hspan]
      exact h.2
  | months n =>
      rw [hspan, shift?, Option.ite_none_right_eq_some, addMonths?_eq_some_iff,
        ← Step.months_eq hspan] at h
      rcases h.2 with ⟨hzero, rfl⟩ | ⟨-, -, hmove⟩
      · exact move_zero_months hspan hzero
      · rw [move_months hspan, hmove]

theorem zone_move (m : Moment) (s : Step) : (m.move s).zone = m.zone := by
  rw [move]
  split <;> rfl

theorem Regular.move (hm : m.Regular) (h : m.CanMove s) : (m.move s).Regular where
  inCalendar := h.1
  zone_lt := by
    rw [zone_move]
    exact hm.zone_lt

/-! ## Steps as they are read -/

theorem adjust_adjustment_eq_ok_iff {s : SpelledStep} :
    m.adjust s.adjustment = .ok r ↔ m.shift? s.forward s.amount s.unit.span = some r := by
  have hamount := amount?_padded s.width s.amount
  have hspan := s.unit.ofUnit?_form s.plural
  rw [adjust_eq_ok_iff]
  constructor
  · rintro ⟨n, span, hn, -, hspan', hshift⟩
    obtain rfl : s.amount = n := Option.some.inj (hamount.symm.trans hn)
    obtain rfl : s.unit.span = span := Option.some.inj (hspan.symm.trans hspan')
    exact hshift
  · exact fun h => ⟨s.amount, s.unit.span, hamount, s.amount_lt, hspan, h⟩

theorem start_of_days_eq_zero {base? : Option Base} (h : base?.elim 0 Base.days = 0) :
    m.start base? = m := by
  simp [start, h, Instant.addSeconds]

theorem atBase?_eq_some_iff {base? : Option Base} :
    m.atBase? base? = some r ↔
      (base?.elim 0 Base.days = 0 ∨ (m.start base?).instant.inCalendar = true) ∧
        m.start base? = r := by
  match base? with
  | none | some .now | some .today =>
      rw [start_of_days_eq_zero rfl, atBase?, Option.some_inj]
      exact ⟨fun h => ⟨.inl rfl, h⟩, fun h => h.2⟩
  | some .tomorrow | some .yesterday =>
      refine addSeconds?_eq_some_iff.trans (and_congr_left' ?_)
      exact ⟨.inr, fun h => h.resolve_left (by decide)⟩

theorem Regular.start {base? : Option Base} (hm : m.Regular)
    (h : (m.start base?).instant.inCalendar = true) : (m.start base?).Regular where
  inCalendar := h
  zone_lt := hm.zone_lt

theorem atBase?_eq_none_iff {base? : Option Base} :
    m.atBase? base? = none ↔
      base?.elim 0 Base.days ≠ 0 ∧ (m.start base?).instant.inCalendar = false := by
  rw [Option.eq_none_iff_forall_ne_some]
  simp [atBase?_eq_some_iff]

end Moment

/-! ## Whole expressions -/

namespace SpelledExpression

variable {e : SpelledExpression} {clock : Moment}

def moves (e : SpelledExpression) : List Step := e.steps.map (·.toStep)

end SpelledExpression

def twoHoursBack : SpelledStep where
  forward := false
  amount := 2
  unit := .hour
  amount_lt := by decide
  front := ⟨[' '], List.forall_mem_singleton.2 (by decide)⟩
  behindSign := .none
  width := 0
  behindAmount := ⟨[' '], List.forall_mem_singleton.2 (by decide)⟩
  plural := true

end Exemplar.Calendar
