import Exemplar.Calendar.Expression

/-!
# What an expression does

An expression takes a moment through a base, which is a step of a day or none, and
through its adjustments, each of which is a step of some spans in a direction. Here it is
said for every part when it leads somewhere and where; a whole expression is then
followed step by step. `Moment.Kept` does this for two moments at once: a relation that
every step keeps is kept by an expression.
-/

namespace Exemplar.Calendar

namespace Instant

/-- What is left of a second that was put in is over when anything is added, and counts
when anything is taken off. -/
theorem addSeconds_of_le {i : Instant} (h : nanosPerSecond ≤ i.nanos) (n : Int) :
    (i.addSeconds n).seconds = i.seconds + n + (if n < 0 then 1 else 0) ∧
      (i.addSeconds n).nanos = if n = 0 then i.nanos else i.nanos - nanosPerSecond := by
  rw [addSeconds, if_neg (Nat.not_lt.2 h)]
  rcases Int.lt_trichotomy n 0 with hn | rfl | hn
  · simp [hn, Int.ne_of_lt hn, Int.lt_asymm hn]
  · simp
  · simp [hn, (Int.ne_of_lt hn).symm, Int.lt_asymm hn]

theorem addSeconds_of_lt {i : Instant} (h : i.nanos < nanosPerSecond) (n : Int) :
    i.addSeconds n = ⟨i.seconds + n, i.nanos⟩ := if_pos h

end Instant

namespace Moment

theorem addSeconds?_eq_some_iff {m r : Moment} {n : Int} :
    m.addSeconds? n = some r ↔
      (m.instant.addSeconds n).inCalendar ∧ ⟨m.instant.addSeconds n, m.zone⟩ = r := by
  rw [addSeconds?]
  split <;> simp [*]

theorem addMonths?_eq_some_iff {m r : Moment} {n : Int} :
    m.addMonths? n = some r ↔
      n = 0 ∧ m = r ∨
      n ≠ 0 ∧ (firstYear ≤ (m.date.addMonths n).year ∧ (m.date.addMonths n).year ≤ lastYear ∧
          r.instant.inCalendar) ∧
        ofDate (m.date.addMonths n) m.secondOfDay m.instant.nanos m.zone = r := by
  rw [addMonths?]
  by_cases hn : n = 0
  · simp [hn]
  · rw [if_neg hn]
    dsimp only
    rw [Option.ite_none_right_eq_some]
    constructor
    · rintro ⟨hrange, hr⟩
      cases hr
      exact .inr ⟨hn, hrange, rfl⟩
    · rintro (⟨hzero, -⟩ | ⟨-, hrange, rfl⟩)
      · exact absurd hzero hn
      · exact ⟨hrange, rfl⟩

theorem zone_of_shift {m r : Moment} {forward : Bool} {amount : Nat} {span : Span}
    (h : m.shift? forward amount span = some r) : r.zone = m.zone := by
  cases span with
  | seconds n =>
      obtain ⟨-, rfl⟩ := addSeconds?_eq_some_iff.1 h
      rfl
  | months n =>
      rw [shift?, Option.ite_none_right_eq_some] at h
      rcases addMonths?_eq_some_iff.1 h.2 with ⟨-, rfl⟩ | ⟨-, -, rfl⟩
      · rfl
      · rfl

/-! ## Whole expressions -/

theorem adjust_eq_ok_iff {m r : Moment} {a : Adjustment} :
    m.adjust a = .ok r ↔
      ∃ n span, amount? a.amount = some n ∧ n < amountBound ∧
        Span.ofUnit? (.ofList (singular a.unit)) = some span ∧
        m.shift? a.forward n span = some r := by
  rw [adjust]
  cases hn : amount? a.amount with
  | none => simp
  | some n =>
      by_cases hbound : n < amountBound
      · cases hspan : Span.ofUnit? (.ofList (singular a.unit)) with
        | none => simp [hbound]
        | some span => cases hr : m.shift? a.forward n span <;> simp [hbound, hr]
      · simp [hbound]

end Moment

theorem evaluate_eq_ok_iff {text : String} {m r : Moment} :
    evaluate text m = .ok r ↔
      ∃ e start, Expression.parse? text.toList = some e ∧ m.atBase? e.base? = some start ∧
        start.adjustAll e.adjustments = .ok r := by
  rw [evaluate]
  cases hparse : Expression.parse? text.toList with
  | none => simp
  | some e =>
      cases hbase : m.atBase? e.base? with
      | none => simp [hbase]
      | some start => cases hrest : start.adjustAll e.adjustments <;> simp [hbase, hrest]

namespace Moment

/-- A relation between moments is kept if it holds behind every step that can be taken
from both. -/
def Kept (R : Moment → Moment → Prop) : Prop :=
  ∀ (forward : Bool) (amount : Nat) (span : Span) ⦃m m' r r' : Moment⦄, R m m' →
    m.shift? forward amount span = some r → m'.shift? forward amount span = some r' → R r r'

namespace Kept

variable {R : Moment → Moment → Prop} {m m' r r' : Moment}

theorem adjustAll (h : Kept R) (hm : R m m') {as : List Adjustment}
    (hr : m.adjustAll as = .ok r) (hr' : m'.adjustAll as = .ok r') : R r r' := by
  induction as generalizing m m' with
  | nil =>
      cases hr
      cases hr'
      exact hm
  | cons a as ih =>
      rw [Moment.adjustAll] at hr hr'
      cases hstep : m.adjust a with
      | error fault => simp [hstep] at hr
      | ok next =>
          cases hstep' : m'.adjust a with
          | error fault => simp [hstep'] at hr'
          | ok next' =>
              rw [hstep] at hr
              rw [hstep'] at hr'
              obtain ⟨n, span, hn, -, hspan, hshift⟩ := adjust_eq_ok_iff.1 hstep
              obtain ⟨n', span', hn', -, hspan', hshift'⟩ := adjust_eq_ok_iff.1 hstep'
              obtain rfl : n = n' := Option.some.inj (hn.symm.trans hn')
              obtain rfl : span = span' := Option.some.inj (hspan.symm.trans hspan')
              exact ih (h a.forward n span hm hshift hshift') hr hr'

theorem atBase (h : Kept R) (hm : R m m') {base? : Option Base}
    (hr : m.atBase? base? = some r) (hr' : m'.atBase? base? = some r') : R r r' := by
  match base? with
  | none | some .now | some .today =>
      cases hr
      cases hr'
      exact hm
  | some .tomorrow => exact h true 1 (.seconds 86400) hm hr hr'
  | some .yesterday => exact h false 1 (.seconds 86400) hm hr hr'

/-- What every step keeps is kept by an expression. -/
theorem evaluate (h : Kept R) (hm : R m m') {text : String}
    (hr : evaluate text m = .ok r) (hr' : evaluate text m' = .ok r') : R r r' := by
  obtain ⟨e, start, hparse, hbase, hrest⟩ := evaluate_eq_ok_iff.1 hr
  obtain ⟨e', start', hparse', hbase', hrest'⟩ := evaluate_eq_ok_iff.1 hr'
  obtain rfl : e = e' := Option.some.inj (hparse.symm.trans hparse')
  exact h.adjustAll (h.atBase hm hbase hbase') hrest hrest'

end Kept

end Moment

end Exemplar.Calendar
