import Exemplar.Generator
import Exemplar.Proofs.Calendar.Meaning
import Mathlib.Data.List.Basic

/-!
# Expressions that are left for later

A date expression that cannot be evaluated is no reason to refuse a call. It is kept as it
is, and the example shows the clock. So a call with an expression should fail only because of
its date pattern, and it does, with one gap. The step to the base is not counted as a part of
the expression that can be refused: where tomorrow or yesterday is a day that the calendar
does not have, there is nothing to fall back on, and the call ends without a result. Nothing
else that an expression can ask for does this; a step of a day that is written as an
adjustment is refused at the same place.
-/

namespace Exemplar

namespace Calendar

/-- The base of an expression is another day than that of the clock, and one that the
calendar does not have. -/
def BaseMissing (text : String) (clock : Moment) : Prop :=
  ∃ e ∈ Expression.parse? text.toList, e.base?.elim 0 Base.days ≠ 0 ∧
    (clock.start e.base?).instant.inCalendar = false

instance (text : String) (clock : Moment) : Decidable (BaseMissing text clock) :=
  inferInstanceAs (Decidable (∃ e ∈ Expression.parse? text.toList, _))

variable {text : String} {clock : Moment}

/-- What ends without a result is an expression whose base is missing. -/
theorem evaluate_eq_outOfCalendar_iff :
    evaluate text clock = .error .outOfCalendar ↔ BaseMissing text clock := by
  rw [evaluate, BaseMissing]
  cases Expression.parse? text.toList with
  | none => simp
  | some e =>
      simp only [Option.mem_some_iff, exists_eq_left', ← Moment.atBase?_eq_none_iff]
      cases hstart : clock.atBase? e.base? with
      | none => simp
      | some start => cases hrest : start.adjustAll e.adjustments <;> simp [hrest]

theorem exists_fault_of_evaluate {e : BuildError} (h : evaluate text clock = .error (.refused e)) :
    ∃ fault, e = .expression text fault := by
  rw [evaluate] at h
  split at h
  · exact ⟨.grammar, by simpa using h.symm⟩
  · split at h
    · cases h
    · split at h
      · exact ⟨_, by simpa using h.symm⟩
      · cases h

end Calendar

namespace Generator

open Calendar

/-- A call with an expression ends in one of four ways. If the pattern cannot be read, its
error is that of the call. If the base of the expression is missing, there is no result.
Otherwise there is an example, with the expression and the pattern as they are: the value of
the expression, or the clock if the expression is refused. -/
theorem make_expression (config : Config) (text pattern : String) :
    (∀ fault, DatePattern.parse pattern = .error fault →
      (expression text pattern).make config = .error (.refused (.datePattern pattern fault))) ∧
    ∀ p, DatePattern.parse pattern = .ok p →
      (BaseMissing text config.clock →
        (expression text pattern).make config = .error .outOfCalendar) ∧
      (¬ BaseMissing text config.clock →
        (∃ m, evaluate text config.clock = .ok m ∧ (expression text pattern).make config =
          .ok (.matched (.str (p.format m)) (.expression text pattern))) ∨
        ∃ fault, evaluate text config.clock = .error (.refused (.expression text fault)) ∧
          (expression text pattern).make config =
            .ok (.matched (.str (p.format config.clock)) (.expression text pattern))) := by
  constructor
  · intro fault hpattern
    rw [make, datePattern, hpattern]
    rfl
  · intro p hpattern
    have hmake : (expression text pattern).make config =
        (expressionMoment text config.clock).map fun m =>
          .matched (.str (p.format m)) (.expression text pattern) := by
      rw [make, datePattern, hpattern]
      rfl
    rw [hmake, expressionMoment]
    constructor
    · intro hmissing
      rw [evaluate_eq_outOfCalendar_iff.2 hmissing]
      rfl
    · intro hbase
      cases hvalue : evaluate text config.clock with
      | ok m => exact .inl ⟨m, rfl, rfl⟩
      | error failure =>
          cases failure with
          | refused e =>
              obtain ⟨fault, rfl⟩ := exists_fault_of_evaluate hvalue
              exact .inr ⟨fault, rfl, rfl⟩
          | outOfCalendar => exact absurd (evaluate_eq_outOfCalendar_iff.1 hvalue) hbase

def lastSecond : Config where
  clock := ⟨⟨8210266876799, 0⟩, 0⟩

/-- On the last day of the calendar there is no tomorrow, and a call that asks for it ends
without a result. A call that asks for a day more is left for later, and one whose pattern
cannot be read is refused. -/
theorem make_expression_on_the_last_day :
    (expression "tomorrow" "yyyy").make lastSecond = .error .outOfCalendar ∧
    (expression "now + 1 day" "yyyy").make lastSecond =
      .ok (.matched (.str "+262142") (.expression "now + 1 day" "yyyy")) ∧
    (expression "tomorrow" "b").make lastSecond =
      .error (.refused (.datePattern "b" (.unsupported 'b' 1))) := by
  have hyear : DatePattern.parse "yyyy" = .ok ⟨"yyyy", [.field .year]⟩ := rfl
  have hmissing : BaseMissing "tomorrow" lastSecond.clock := by decide +kernel
  have hbase : ¬ BaseMissing "now + 1 day" lastSecond.clock := by decide +kernel
  have hvalue : evaluate "now + 1 day" lastSecond.clock =
      .error (.refused (.expression "now + 1 day" (.adjustment "+ 1 day"))) := by decide +kernel
  refine ⟨?_, ?_, ?_⟩
  · exact ((make_expression lastSecond "tomorrow" "yyyy").2 _ hyear).1 hmissing
  · rcases ((make_expression lastSecond "now + 1 day" "yyyy").2 _ hyear).2 hbase with
      ⟨m, hm, -⟩ | ⟨fault, -, hmake⟩
    · rw [hvalue] at hm
      cases hm
    · have htext : DatePattern.format ⟨"yyyy", [.field .year]⟩ lastSecond.clock = "+262142" := by
        decide +kernel
      rw [hmake, htext]
  · exact (make_expression lastSecond "tomorrow" "b").1 _ rfl

end Generator

end Exemplar
