import Exemplar.Generator

/-!
# What a generator refuses

A generator knows nothing of the document that its value is for. What it refuses
is a pattern or an example, and never that a call does not fit the document.
-/

namespace Exemplar.Generator

variable {e : BuildError}

theorem family_of_parse {pattern : String} (h : Pattern.Whole.parse pattern = .error e) :
    e.family = .input := by
  rw [Pattern.Whole.parse] at h
  split at h
  · cases h
    rfl
  · split at h
    · cases h
      rfl
    · split at h
      · cases h
      · cases h
        rfl

theorem family_of_check {pattern text : String} (h : Pattern.Whole.check pattern text = .error e) :
    e.family = .input := by
  rw [Pattern.Whole.check] at h
  split at h
  · cases h
    exact family_of_parse ‹_›
  · split at h
    · cases h
    · cases h
      rfl

theorem family_of_synthesize {pattern : String}
    (h : Pattern.Whole.synthesize pattern = .error e) : e.family = .input := by
  unfold Pattern.Whole.synthesize at h
  split at h
  · cases h
    rfl
  · cases h
    exact family_of_parse ‹_›
  · dsimp only at h
    split at h
    · cases h
    · cases h
      rfl

theorem eq_error_of_orRefuse {α : Type} {r : Except BuildError α}
    (h : orRefuse r = .error (.refused e)) : r = .error e := by
  cases r with
  | ok a => cases h
  | error e' =>
      cases h
      rfl

theorem eq_error_of_map {α β : Type} {r : Except Failure α} {k : α → β} {f : Failure}
    (h : r.map k = .error f) : r = .error f := by
  cases r with
  | ok a => cases h
  | error f' =>
      cases h
      rfl

theorem family_of_checked {pattern text : String}
    (h : checked pattern text = .error (.refused e)) : e.family = .input :=
  family_of_check (eq_error_of_orRefuse (eq_error_of_map h))

theorem family_of_synthesized {pattern : String}
    (h : synthesized pattern = .error (.refused e)) : e.family = .input :=
  family_of_synthesize (eq_error_of_orRefuse (eq_error_of_map h))

theorem family_of_datePattern {pattern : String}
    (h : datePattern pattern = .error (.refused e)) : e.family = .format := by
  rw [datePattern] at h
  cases hp : Calendar.DatePattern.parse pattern with
  | ok p =>
      rw [hp] at h
      cases h
  | error fault =>
      rw [hp] at h
      cases h
      rfl

theorem expressionMoment_ne_refused (text : String) (clock : Calendar.Moment) :
    expressionMoment text clock ≠ .error (.refused e) := by
  rw [expressionMoment]
  split <;> simp

/-- A value that cannot be made has an argument that is no good. -/
theorem family_of_make {config : Config} {g : Generator}
    (h : g.make config = .error (.refused e)) : e.family ≠ .structural := by
  cases g with
  | exactMoment => simp [family_of_datePattern (eq_error_of_map h)]
  | temporal => simp [family_of_datePattern (eq_error_of_map h)]
  | hex => simp [family_of_checked h]
  | uuid => simp [family_of_checked h]
  | ipAddress => simp [family_of_checked h]
  | matching pattern example? =>
      cases example? with
      | none => simp [family_of_synthesized h]
      | some text => simp [family_of_checked h]
  | expression text pattern =>
      rw [make] at h
      cases hp : datePattern pattern with
      | error f =>
          rw [hp] at h
          obtain rfl : f = .refused e := by simpa using h
          simp [family_of_datePattern hp]
      | ok p =>
          rw [hp] at h
          exact absurd (eq_error_of_map h) (expressionMoment_ne_refused text config.clock)
  | exact | matched | string | integer | decimal | number | boolean | id | including => cases h

end Exemplar.Generator
