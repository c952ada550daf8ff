import Exemplar.Proofs.Calendar.Meaning
import Mathlib.Algebra.BigOperators.Group.List.Basic
import Mathlib.Algebra.Ring.Int.Defs

/-!
# Steps add up

Steps by fixed times add up to one number of seconds, and steps by months add up to one
number of months, as long as the date has a day that every month has: then nothing is ever
cut off. What matters of the steps is their total, so they can be put into another order, put
together, or left out where one undoes another. `Regrouped` is the relation between lists of
steps that this makes, and `steps_add_up` the statement about expressions.

Nothing is said here about whether the steps can be taken. A total may well lie in the
calendar while some step on the way leaves it.
-/

namespace Exemplar.Calendar

/-- The unit is a fixed time, other than a month or a year. -/
def TimeUnit.isFixed : TimeUnit → Bool
  | .second | .minute | .hour | .day | .week => true
  | .month | .year => false

theorem TimeUnit.span_of_isFixed {unit : TimeUnit} (h : unit.isFixed = true) :
    ∃ n, unit.span = .seconds n := by
  cases unit with
  | month | year => cases h
  | second | minute | hour | day | week => exact ⟨_, rfl⟩

theorem TimeUnit.span_of_not_isFixed {unit : TimeUnit} (h : unit.isFixed = false) :
    ∃ n, unit.span = .months n := by
  cases unit with
  | month | year => exact ⟨_, rfl⟩
  | second | minute | hour | day | week => cases h

/-- A list of steps comes from another one by putting steps in another order, putting two
steps by the same unit in the same direction together, or leaving out two that undo each
other. -/
inductive Regrouped : List Step → List Step → Prop where
  | perm {ss ts : List Step} (h : ss.Perm ts) : Regrouped ss ts
  | merge {s t u : Step} (hunit : s.unit = u.unit ∧ t.unit = u.unit)
      (hforward : s.forward = u.forward ∧ t.forward = u.forward)
      (hamount : s.amount + t.amount = u.amount) (ss : List Step) :
      Regrouped (s :: t :: ss) (u :: ss)
  | cancel {s t : Step} (hunit : s.unit = t.unit) (hforward : s.forward = !t.forward)
      (hamount : s.amount = t.amount) (ss : List Step) : Regrouped (s :: t :: ss) ss
  | symm {ss ts : List Step} (h : Regrouped ss ts) : Regrouped ts ss
  | trans {ss ts us : List Step} (h : Regrouped ss ts) (h' : Regrouped ts us) : Regrouped ss us

theorem signed_add (forward : Bool) (m n : Nat) :
    signed forward (m + n) = signed forward m + signed forward n := by
  cases forward <;> simp only [signed] <;> grind

theorem signed_not (forward : Bool) (n : Nat) : signed (!forward) n = -signed forward n := by
  cases forward <;> simp [signed]

def total (count : TimeUnit → Nat) (ss : List Step) : Int :=
  (ss.map fun s => signed s.forward (s.amount * count s.unit)).sum

theorem total_nil (count : TimeUnit → Nat) : total count [] = 0 := rfl

theorem total_cons (count : TimeUnit → Nat) (s : Step) (ss : List Step) :
    total count (s :: ss) = signed s.forward (s.amount * count s.unit) + total count ss :=
  List.sum_cons ..

/-- Regrouping steps does not change what they come to, whatever the units count for. -/
theorem Regrouped.total_eq {ss ts : List Step} (h : Regrouped ss ts) (count : TimeUnit → Nat) :
    total count ss = total count ts := by
  induction h with
  | perm h => exact (h.map _).sum_eq
  | @merge s t u hunit hforward hamount ss =>
      rw [total_cons, total_cons, total_cons, hunit.1, hunit.2, hforward.1, hforward.2, ← hamount,
        Nat.add_mul, signed_add, Int.add_assoc]
  | @cancel s t hunit hforward hamount ss =>
      rw [total_cons, total_cons, hunit, hforward, hamount, signed_not, Int.neg_add_cancel_left]
  | symm _ ih => exact ih.symm
  | trans _ _ ih ih' => exact ih.trans ih'

namespace Date

theorem length_month_ge (year : Int) {month : Nat} (h : month < 12) :
    28 ≤ Month.length year month := by
  have h' : month < (Month.lengths year).length := h
  have hall : ∀ l ∈ Month.lengths year, 28 ≤ l := by
    simp only [Month.lengths]
    split <;> decide
  rw [Month.length, List.getElem?_eq_getElem h', Option.getD_some]
  exact hall _ (List.getElem_mem h')

variable {d e : Date}

theorem day_addMonths (h : d.day < 28) (n : Int) : (d.addMonths n).day = d.day := by
  have hmonth : ((12 * d.year + d.month + n) % 12).toNat < 12 := by omega
  have := length_month_ge ((12 * d.year + d.month + n) / 12) hmonth
  simp only [addMonths]
  omega

theorem eq_of_monthIndex (hindex : d.monthIndex = e.monthIndex) (hday : d.day = e.day) : d = e := by
  have hmonth := d.month_lt
  have hmonth' := e.month_lt
  rw [monthIndex, monthIndex] at hindex
  exact eq_of (by omega) (by omega) hday

/-- A day that every month has stays the same. -/
theorem addMonths_addMonths (h : d.day < 28) (m n : Int) :
    (d.addMonths m).addMonths n = d.addMonths (m + n) := by
  have hday := day_addMonths h m
  refine eq_of_monthIndex ?_ ?_
  · rw [monthIndex_addMonths, monthIndex_addMonths, monthIndex_addMonths, Int.add_assoc]
  · rw [day_addMonths (hday ▸ h), hday, day_addMonths h]

end Date

namespace Moment

variable {m r : Moment}

/-! ## Steps of one kind -/

theorem follow_cons (m : Moment) (s : Step) (ss : List Step) :
    m.follow (s :: ss) = (m.move s).follow ss := rfl

theorem move_of_isFixed {s : Step} (hnanos : m.instant.nanos < nanosPerSecond)
    (h : s.unit.isFixed = true) :
    m.move s = ⟨⟨m.instant.seconds + s.seconds, m.instant.nanos⟩, m.zone⟩ := by
  obtain ⟨n, hspan⟩ := TimeUnit.span_of_isFixed h
  rw [move_seconds hspan, Instant.addSeconds_of_lt hnanos]

/-- Steps by fixed times are one step by their total. -/
theorem follow_of_isFixed {ss : List Step} (hnanos : m.instant.nanos < nanosPerSecond)
    (h : ∀ s ∈ ss, s.unit.isFixed = true) :
    m.follow ss = ⟨⟨m.instant.seconds + total TimeUnit.seconds ss, m.instant.nanos⟩, m.zone⟩ := by
  induction ss generalizing m with
  | nil => rw [total_nil, Int.add_zero, follow, List.foldl_nil]
  | cons s ss ih =>
      obtain ⟨hfirst, hrest⟩ := List.forall_mem_cons.1 h
      have hmove := move_of_isFixed hnanos hfirst
      have hnanos' : (m.move s).instant.nanos < nanosPerSecond := by rwa [hmove]
      rw [follow_cons, ih hnanos' hrest, hmove, total_cons, ← Int.add_assoc, Step.seconds]

/-- Steps by months are one step by their total, if the day is one that every month has. -/
theorem follow_of_not_isFixed {ss : List Step} (hday : m.date.day < 28)
    (h : ∀ s ∈ ss, s.unit.isFixed = false) :
    m.follow ss =
      ofDate (m.date.addMonths (total TimeUnit.months ss)) m.secondOfDay m.instant.nanos m.zone := by
  induction ss generalizing m with
  | nil => rw [total_nil, Date.addMonths_zero, ofDate_date, follow, List.foldl_nil]
  | cons s ss ih =>
      obtain ⟨hfirst, hrest⟩ := List.forall_mem_cons.1 h
      obtain ⟨n, hspan⟩ := TimeUnit.span_of_not_isFixed hfirst
      have hmove := move_months (m := m) hspan
      have hdate := date_move_months (m := m) hspan
      -- No step on the way cuts the day off, so the next one starts from it again.
      have hday' : (m.move s).date.day < 28 := by rwa [hdate, Date.day_addMonths hday]
      have htime : (m.move s).secondOfDay = m.secondOfDay := by
        rw [hmove, secondOfDay_ofDate _ m.secondOfDay_lt]
      have hnanos : (m.move s).instant.nanos = m.instant.nanos := by rw [hmove, ofDate]
      rw [follow_cons, ih hday' hrest, hdate, htime, hnanos, zone_move,
        Date.addMonths_addMonths hday, total_cons, Step.months]

/-! ## Steps that have been taken -/

theorem nanos_start (h : m.instant.nanos < nanosPerSecond) (base? : Option Base) :
    (m.start base?).instant.nanos = m.instant.nanos := by
  rw [start, Instant.addSeconds_of_lt h]

theorem follow_of_adjustAll {ss : List SpelledStep}
    (h : m.adjustAll (ss.map (·.adjustment)) = .ok r) : m.follow (ss.map (·.toStep)) = r := by
  induction ss generalizing m with
  | nil => exact Except.ok.inj h
  | cons s ss ih =>
      rw [List.map_cons, adjustAll] at h
      cases hstep : m.adjust s.adjustment with
      | error fault => simp [hstep] at h
      | ok next =>
          rw [hstep] at h
          have hshift := adjust_adjustment_eq_ok_iff.1 hstep
          rw [List.map_cons, follow_cons, move_of_shift? hshift]
          exact ih h

end Moment

namespace SpelledExpression

variable {e : SpelledExpression} {clock m : Moment}

theorem follow_of_evaluate (h : evaluate e.text clock = .ok m) :
    (clock.start e.base?).follow e.moves = m := by
  obtain ⟨parsed, start, hparse, hstart, hrest⟩ := evaluate_eq_ok_iff.1 h
  obtain rfl := Option.some.inj (e.parse?_text.symm.trans hparse)
  rw [(Moment.atBase?_eq_some_iff.1 hstart).2]
  exact Moment.follow_of_adjustAll hrest

theorem eq_of_isFixed (hclock : clock.instant.nanos < nanosPerSecond)
    (hm : evaluate e.text clock = .ok m) (h : ∀ s ∈ e.moves, s.unit.isFixed = true) :
    m = ⟨⟨(clock.start e.base?).instant.seconds + total TimeUnit.seconds e.moves,
      clock.instant.nanos⟩, clock.zone⟩ := by
  have hnanos := Moment.nanos_start hclock e.base?
  rw [← follow_of_evaluate hm, Moment.follow_of_isFixed (hnanos ▸ hclock) h, hnanos]
  rfl

theorem eq_of_not_isFixed (hclock : clock.instant.nanos < nanosPerSecond)
    (hm : evaluate e.text clock = .ok m) (hday : (clock.start e.base?).date.day < 28)
    (h : ∀ s ∈ e.moves, s.unit.isFixed = false) :
    m = .ofDate ((clock.start e.base?).date.addMonths (total TimeUnit.months e.moves))
      (clock.start e.base?).secondOfDay clock.instant.nanos clock.zone := by
  rw [← follow_of_evaluate hm, Moment.follow_of_not_isFixed hday h, Moment.nanos_start hclock]
  rfl

end SpelledExpression

/-- Steps add up, if the expression has a value. By fixed times it is the total of their
seconds away from the base. By months from a day that every month has, it is the total of
their months away, on the same day and at the same time. Another expression from the same
base with the steps regrouped has the same value, if it has one. -/
theorem steps_add_up (e : SpelledExpression) (clock m : Moment)
    (hclock : clock.instant.nanos < nanosPerSecond) (hm : evaluate e.text clock = .ok m) :
    ((∀ s ∈ e.moves, s.unit.isFixed = true) →
      m = ⟨⟨(clock.start e.base?).instant.seconds + total TimeUnit.seconds e.moves,
        clock.instant.nanos⟩, clock.zone⟩ ∧
      ∀ (e' : SpelledExpression) (m' : Moment), e'.base? = e.base? →
        (∀ s ∈ e'.moves, s.unit.isFixed = true) → Regrouped e.moves e'.moves →
        evaluate e'.text clock = .ok m' → m' = m) ∧
    ((∀ s ∈ e.moves, s.unit.isFixed = false) → (clock.start e.base?).date.day < 28 →
      (m.date.monthIndex =
          (clock.start e.base?).date.monthIndex + total TimeUnit.months e.moves ∧
        m.date.day = (clock.start e.base?).date.day ∧
        m.secondOfDay = (clock.start e.base?).secondOfDay ∧
        m.instant.nanos = clock.instant.nanos ∧ m.zone = clock.zone) ∧
      ∀ (e' : SpelledExpression) (m' : Moment), e'.base? = e.base? →
        (∀ s ∈ e'.moves, s.unit.isFixed = false) → Regrouped e.moves e'.moves →
        evaluate e'.text clock = .ok m' → m' = m) := by
  constructor
  · intro hfixed
    have hvalue := SpelledExpression.eq_of_isFixed hclock hm hfixed
    refine ⟨hvalue, fun e' m' hbase hfixed' hregrouped hm' => ?_⟩
    rw [SpelledExpression.eq_of_isFixed hclock hm' hfixed', hbase,
      ← hregrouped.total_eq TimeUnit.seconds, ← hvalue]
  · intro hmonths hday
    have hvalue := SpelledExpression.eq_of_not_isFixed hclock hm hday hmonths
    constructor
    · have hsecond := (clock.start e.base?).secondOfDay_lt
      refine ⟨?_, ?_, ?_, ?_, ?_⟩
      · rw [hvalue, Moment.date_ofDate _ hsecond, Date.monthIndex_addMonths]
      · rw [hvalue, Moment.date_ofDate _ hsecond, Date.day_addMonths hday]
      · rw [hvalue, Moment.secondOfDay_ofDate _ hsecond]
      · rw [hvalue, Moment.ofDate]
      · rw [hvalue, Moment.ofDate]
    · intro e' m' hbase hmonths' hregrouped hm'
      rw [SpelledExpression.eq_of_not_isFixed hclock hm' (hbase ▸ hday) hmonths', hbase,
        ← hregrouped.total_eq TimeUnit.months, ← hvalue]

def Step.plain (s : Step) : SpelledStep where
  toStep := s
  front := .none
  behindSign := .none
  width := 0
  behindAmount := .none
  plural := true

def SpelledExpression.plain (base? : Option Base) (ss : List Step) : SpelledExpression where
  front := .none
  base? := base?
  steps := ss.map (·.plain)
  back := .none

theorem SpelledExpression.moves_plain (base? : Option Base) (ss : List Step) :
    (plain base? ss).moves = ss := by
  rw [moves, plain, List.map_map]
  exact List.map_id ss

theorem one_lt_amountBound : 1 < amountBound := by decide

def TimeUnit.step (unit : TimeUnit) (forward : Bool) : Step :=
  ⟨forward, 1, unit, one_lt_amountBound⟩

def detour : SpelledExpression :=
  .plain (some .tomorrow) [TimeUnit.day.step true, TimeUnit.day.step false,
    TimeUnit.hour.step false, TimeUnit.hour.step false]

def shortcut : SpelledExpression := .plain (some .tomorrow) [twoHoursBack.toStep]

def yearFirst : SpelledExpression :=
  .plain (some .now) [TimeUnit.year.step true, TimeUnit.month.step false]

def monthFirst : SpelledExpression :=
  .plain (some .now) [TimeUnit.month.step false, TimeUnit.year.step true]

/-- A day ahead and back again is no step, and an hour and an hour are two. From the end of
March in a leap year, a year ahead and a month back lead to the end of February, in either
order. -/
theorem steps_add_up_in_either_order :
    (evaluate "tomorrow+1days-1days-1hours-1hours" ⟨⟨1700000000, 7⟩, 3600⟩ =
        .ok ⟨⟨1700079200, 7⟩, 3600⟩ ∧
      ∀ m, evaluate "tomorrow-2hours" ⟨⟨1700000000, 7⟩, 3600⟩ = .ok m →
        m = ⟨⟨1700079200, 7⟩, 3600⟩) ∧
    evaluate "now+1years-1months" ⟨⟨1711591200, 7⟩, -3600⟩ = .ok ⟨⟨1740708000, 7⟩, -3600⟩ ∧
      ∀ m, evaluate "now-1months+1years" ⟨⟨1711591200, 7⟩, -3600⟩ = .ok m →
        m = ⟨⟨1740708000, 7⟩, -3600⟩ := by
  constructor
  · have hdetour : detour.text = "tomorrow+1days-1days-1hours-1hours" := by decide +kernel
    have hshortcut : shortcut.text = "tomorrow-2hours" := by decide +kernel
    have hm : evaluate detour.text ⟨⟨1700000000, 7⟩, 3600⟩ = .ok ⟨⟨1700079200, 7⟩, 3600⟩ := by
      decide +kernel
    have hregrouped : Regrouped detour.moves shortcut.moves := by
      rw [detour, shortcut, SpelledExpression.moves_plain, SpelledExpression.moves_plain]
      exact .trans (.cancel (by rfl) (by rfl) (by rfl) _)
        (.merge ⟨by rfl, by rfl⟩ ⟨by rfl, by rfl⟩ (by rfl) [])
    rw [← hdetour, ← hshortcut]
    refine ⟨hm, fun m h => ?_⟩
    have hsum := (steps_add_up detour _ _ (by decide) hm).1 (by decide)
    exact hsum.2 shortcut m rfl (by decide) hregrouped h
  · have hyear : yearFirst.text = "now+1years-1months" := by decide +kernel
    have hmonth : monthFirst.text = "now-1months+1years" := by decide +kernel
    have hm : evaluate yearFirst.text ⟨⟨1711591200, 7⟩, -3600⟩ =
        .ok ⟨⟨1740708000, 7⟩, -3600⟩ := by decide +kernel
    have hregrouped : Regrouped yearFirst.moves monthFirst.moves := .perm (.swap _ _ [])
    rw [← hyear, ← hmonth]
    refine ⟨hm, fun m h => ?_⟩
    have hsum := (steps_add_up yearFirst _ _ (by decide) hm).2 (by decide) (by decide +kernel)
    exact hsum.2 monthFirst m rfl (by decide) hregrouped h

end Exemplar.Calendar
