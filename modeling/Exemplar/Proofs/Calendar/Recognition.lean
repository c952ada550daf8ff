import Exemplar.Proofs.Generator.Deferral
import Mathlib.Data.List.DropRight

/-!
# Texts that are evaluated

Only expressions are evaluated. The reader is followed backwards here: what it has taken off
the front of a text is put together again, and an adjustment that could be applied turns out
to be the text of a step.

An expression should have one ending for a plural, but the reader takes off every `s` that it
finds at the end of a unit. So the texts that have a value are those of a `LaxExpression`,
which may have more of them, and `evaluate_within_grammar` says that there are no others.
-/

namespace Exemplar.Calendar

/-! ## Amounts -/

section Digits

variable {c d : Char} {xs ys digits : List Char} {n : Nat}

theorem toNat_of_isDigit (h : c.isDigit = true) : 48 ≤ c.toNat ∧ c.toNat ≤ 57 := by
  simpa [Char.isDigit, UInt32.le_iff_toNat_le] using h

theorem ofDigitChars_concat (xs : List Char) (c : Char) :
    Nat.ofDigitChars 10 (xs ++ [c]) 0 = 10 * Nat.ofDigitChars 10 xs 0 + (c.toNat - 48) := by
  rw [Nat.ofDigitChars_append, Nat.ofDigitChars_cons]
  rfl

theorem ofDigitChars_lt (h : ∀ c ∈ xs, c.isDigit = true) :
    Nat.ofDigitChars 10 xs 0 < 10 ^ xs.length := by
  induction xs using List.reverseRecOn with
  | nil => decide
  | append_singleton xs c ih =>
      have hxs := ih fun d hd => h d (List.mem_append_left _ hd)
      have hc := toNat_of_isDigit (h c (by simp))
      rw [ofDigitChars_concat, List.length_append, List.length_singleton, Nat.pow_succ]
      omega

theorem eq_of_ofDigitChars_eq (hlength : xs.length = ys.length)
    (hxs : ∀ c ∈ xs, c.isDigit = true) (hys : ∀ c ∈ ys, c.isDigit = true)
    (h : Nat.ofDigitChars 10 xs 0 = Nat.ofDigitChars 10 ys 0) : xs = ys := by
  induction xs using List.reverseRecOn generalizing ys with
  | nil => exact (List.length_eq_zero_iff.1 hlength.symm).symm
  | append_singleton xs c ih =>
      obtain rfl | ⟨ys, d, rfl⟩ := List.eq_nil_or_concat' ys
      · simp at hlength
      · have hc := toNat_of_isDigit (hxs c (by simp))
        have hd := toNat_of_isDigit (hys d (by simp))
        rw [ofDigitChars_concat, ofDigitChars_concat] at h
        obtain rfl : c = d := Char.toNat_inj.1 (by omega)
        rw [ih (by simpa using hlength) (fun e he => hxs e (List.mem_append_left _ he))
          (fun e he => hys e (List.mem_append_left _ he)) (by omega)]

/-- Digits that are read as a number are how it is written, with zeros in front. -/
theorem padded_of_amount? (hne : digits ≠ []) (h : amount? digits = some n) :
    padded digits.length n = digits := by
  have hdigits : ∀ c ∈ digits, c.isDigit = true := by
    rw [amount?, Option.ite_none_right_eq_some] at h
    exact List.all_eq_true.1 h.1
  have hn : Nat.ofDigitChars 10 digits 0 = n :=
    Option.some.inj ((amount?_of_isDigit hdigits).symm.trans h)
  have hpadded : ∀ c ∈ padded digits.length n, c.isDigit = true :=
    fun c hc => isDigit_of_mem_padded hc
  refine eq_of_ofDigitChars_eq ?_ hpadded hdigits ?_
  · exact length_padded (List.length_pos_iff.2 hne) (hn ▸ ofDigitChars_lt hdigits)
  · have hvalue := amount?_padded digits.length n
    rw [amount?_of_isDigit hpadded] at hvalue
    exact (Option.some.inj hvalue).trans hn.symm

end Digits

/-! ## Units -/

namespace TimeUnit

theorem exists_of_ofUnit? {word : List Char} {span : Span}
    (h : Span.ofUnit? (.ofList word) = some span) : ∃ unit : TimeUnit, word = unit.word := by
  rw [Span.ofUnit?.eq_def] at h
  have hword : ∀ s : String, String.ofList word = s → word = s.toList := by
    rintro s rfl
    rw [String.toList_ofList]
  split at h
  · next hs => exact ⟨.second, hword _ hs⟩
  · next hs => exact ⟨.minute, hword _ hs⟩
  · next hs => exact ⟨.hour, hword _ hs⟩
  · next hs => exact ⟨.day, hword _ hs⟩
  · next hs => exact ⟨.week, hword _ hs⟩
  · next hs => exact ⟨.month, hword _ hs⟩
  · next hs => exact ⟨.year, hword _ hs⟩
  · cases h

/-- The singular of a word is what is in front of every `s` at its end. -/
theorem exists_replicate_of_singular (word : List Char) :
    ∃ n, word = singular word ++ List.replicate n 's' := by
  have hend : word.rtakeWhile (· = 's') =
      List.replicate (word.rtakeWhile (· = 's')).length 's' :=
    List.eq_replicate_of_mem fun c hc => by simpa using List.mem_rtakeWhile_imp hc
  exact ⟨_, hend ▸ List.rdropWhile_append_rtakeWhile.symm⟩

/-- In the word for a unit, the ending of the plural is not there twice. -/
theorem not_endings_form (unit : TimeUnit) (plural : Bool) :
    ¬ ['s', 's'] <:+: unit.form plural := by
  cases unit <;> cases plural <;> decide

end TimeUnit

/-! ## Adjustments that mean something -/

namespace Adjustment

/-- The number of an adjustment and its unit can be worked out. -/
def Meaningful (a : Adjustment) : Prop :=
  ∃ n span, amount? a.amount = some n ∧ n < amountBound ∧
    Span.ofUnit? (.ofList (singular a.unit)) = some span

end Adjustment

theorem WrittenAdjustment.exists_step (w : WrittenAdjustment) (h : w.reading.Meaningful) :
    ∃ s : LaxStep, s.written = w := by
  obtain ⟨n, span, hn, hbound, hspan⟩ := h
  obtain ⟨unit, hunit⟩ := TimeUnit.exists_of_ofUnit? hspan
  obtain ⟨count, hcount⟩ := TimeUnit.exists_replicate_of_singular w.letters
  -- The first ending is that of the plural, the others are extra.
  obtain ⟨plural, extra, hextra, hform⟩ : ∃ (plural : Bool) (extra : Nat),
      (plural = false → extra = 0) ∧
        unit.form plural ++ List.replicate extra 's' = w.letters := by
    rw [hcount]
    have hword : singular w.letters = unit.word := hunit
    rw [hword]
    cases count with
    | zero => exact ⟨false, 0, fun _ => rfl, rfl⟩
    | succ count => exact ⟨true, count, nofun, by simp [TimeUnit.form, List.replicate_succ]⟩
  have hamount : padded w.digits.length n = w.digits := padded_of_amount? w.digits_ne_nil hn
  refine ⟨{ forward := w.forward, amount := n, unit, amount_lt := hbound, front := w.front,
            behindSign := w.behindSign, width := w.digits.length,
            behindAmount := w.behindDigits, plural, extra, extra_eq_zero := hextra }, ?_⟩
  simp only [LaxStep.written, LaxStep.endings, hamount, hform]

theorem exists_steps_of_meaningful {row : List WrittenAdjustment}
    (h : ∀ w ∈ row, w.reading.Meaningful) :
    ∃ steps : List LaxStep, steps.map (·.written) = row := by
  induction row with
  | nil => exact ⟨[], rfl⟩
  | cons w row ih =>
      obtain ⟨hw, hrow⟩ := List.forall_mem_cons.1 h
      obtain ⟨s, rfl⟩ := w.exists_step hw
      obtain ⟨steps, rfl⟩ := ih hrow
      exact ⟨s :: steps, rfl⟩

/-- What adjustments do to a moment shows that they mean something. -/
theorem Moment.meaningful_of_adjustAll {m r : Moment} {as : List Adjustment}
    (h : m.adjustAll as = .ok r) : ∀ a ∈ as, a.Meaningful := by
  induction as generalizing m with
  | nil => nofun
  | cons a as ih =>
      rw [Moment.adjustAll] at h
      cases hstep : m.adjust a with
      | error fault => simp [hstep] at h
      | ok next =>
          rw [hstep] at h
          obtain ⟨n, span, hn, hbound, hspan, -⟩ := Moment.adjust_eq_ok_iff.1 hstep
          exact List.forall_mem_cons.2 ⟨⟨n, span, hn, hbound, hspan⟩, ih h⟩

namespace LaxExpression

theorem exists_of_parse? {text : String} {x : Expression}
    (h : Expression.parse? text.toList = some x) (hx : ∀ a ∈ x.adjustments, a.Meaningful) :
    ∃ e : LaxExpression, e.text = text := by
  obtain ⟨w, hw, rfl⟩ := Expression.exists_written_of_parse? h
  obtain ⟨steps, hsteps⟩ := exists_steps_of_meaningful (List.forall_mem_map.1 hx)
  let e : LaxExpression := ⟨w.front, w.base?, steps, w.back⟩
  have he : e.written = w := by rw [written, hsteps]
  refine ⟨e, String.toList_inj.1 ?_⟩
  rw [← chars_written, he, hw]

/-- An expression with endings that are too many has no spelling without them. -/
theorem exists_spelled_iff (e : LaxExpression) :
    (∃ x : SpelledExpression, x.text = e.text) ↔ e.Strict := by
  refine ⟨?_, fun hstrict => ⟨e.strict, hstrict.text_eq⟩⟩
  rintro ⟨x, hx⟩ s hs
  have h := e.parse?_text
  rw [← hx, x.parse?_text, Option.some_inj] at h
  have hmem : s.reading ∈ x.steps.map SpelledStep.adjustment := by
    rw [(Expression.mk.inj h).2]
    exact List.mem_map_of_mem hs
  obtain ⟨t, -, ht⟩ := List.mem_map.1 hmem
  have hunit : t.unit.form t.plural = s.unit.form s.plural ++ s.endings :=
    congrArg Adjustment.unit ht
  by_contra hextra
  -- The ending of the plural and the extra one behind it are two in a row.
  have hplural : s.plural = true := by
    by_contra hsingular
    exact hextra (s.extra_eq_zero (by simpa using hsingular))
  obtain ⟨n, hn⟩ := Nat.exists_eq_succ_of_ne_zero hextra
  refine TimeUnit.not_endings_form t.unit t.plural ⟨s.unit.word, List.replicate n 's', ?_⟩
  rw [hunit, TimeUnit.form, if_pos hplural, LaxStep.endings, hn]
  simp [List.replicate_succ]

end LaxExpression

/-- Nothing outside of the grammar is evaluated, but for the endings of plurals. A text that
has a value is that of an expression, whatever the clock, and it can be spelled as one exactly
if no unit has an ending too many. Every other text is refused, unless the base in front of
it is a day that the calendar does not have. -/
theorem evaluate_within_grammar (text : String) (clock : Moment) :
    (∀ m, evaluate text clock = .ok m → ∃ e : LaxExpression, e.text = text ∧
      ((∃ x : SpelledExpression, x.text = text) ↔ e.Strict)) ∧
    ((¬ ∃ e : LaxExpression, e.text = text) →
      (BaseMissing text clock → evaluate text clock = .error .outOfCalendar) ∧
      (¬ BaseMissing text clock →
        ∃ fault, evaluate text clock = .error (.refused (.expression text fault)))) := by
  have hread : ∀ m, evaluate text clock = .ok m → ∃ e : LaxExpression, e.text = text ∧
      ((∃ x : SpelledExpression, x.text = text) ↔ e.Strict) := by
    intro m hm
    -- The reader admits any letters for a unit; only that the steps were taken shows that
    -- they are one.
    obtain ⟨x, start, hparse, -, hsteps⟩ := evaluate_eq_ok_iff.1 hm
    obtain ⟨e, rfl⟩ :=
      LaxExpression.exists_of_parse? hparse (Moment.meaningful_of_adjustAll hsteps)
    exact ⟨e, rfl, e.exists_spelled_iff⟩
  refine ⟨hread, fun hnone => ⟨evaluate_eq_outOfCalendar_iff.2, fun hbase => ?_⟩⟩
  cases hvalue : evaluate text clock with
  | ok m =>
      obtain ⟨e, he, -⟩ := hread m hvalue
      exact absurd ⟨e, he⟩ hnone
  | error failure =>
      cases failure with
      | refused e =>
          obtain ⟨fault, rfl⟩ := exists_fault_of_evaluate hvalue
          exact ⟨fault, rfl⟩
      | outOfCalendar => exact absurd (evaluate_eq_outOfCalendar_iff.1 hvalue) hbase

/-- A plural with two endings is evaluated, though it cannot be spelled as an expression. A
fortnight is no unit, so it is refused; behind a day that the calendar does not have, it is
not even looked at. -/
theorem evaluate_within_grammar_of_two_endings :
    (evaluate "now + 1 dayss" ⟨⟨0, 0⟩, 0⟩ = .ok ⟨⟨86400, 0⟩, 0⟩ ∧
      (∃ e : LaxExpression, e.text = "now + 1 dayss") ∧
      ¬ ∃ x : SpelledExpression, x.text = "now + 1 dayss") ∧
    (¬ ∃ e : LaxExpression, e.text = "tomorrow + 1 fortnight") ∧
    (¬ BaseMissing "tomorrow + 1 fortnight" ⟨⟨0, 0⟩, 0⟩ ∧
      ∃ fault, evaluate "tomorrow + 1 fortnight" ⟨⟨0, 0⟩, 0⟩ =
        .error (.refused (.expression "tomorrow + 1 fortnight" fault))) ∧
    (BaseMissing "tomorrow + 1 fortnight" ⟨⟨8210266876799, 0⟩, 0⟩ ∧
      evaluate "tomorrow + 1 fortnight" ⟨⟨8210266876799, 0⟩, 0⟩ = .error .outOfCalendar) := by
  have hvalue : evaluate "now + 1 dayss" ⟨⟨0, 0⟩, 0⟩ = .ok ⟨⟨86400, 0⟩, 0⟩ := by
    decide +kernel
  have hread : Expression.parse? "now + 1 dayss".toList =
      some ⟨some .now, [⟨true, ['1'], "dayss".toList, "+ 1 dayss".toList⟩]⟩ := by
    decide +kernel
  have hread' : Expression.parse? "tomorrow + 1 fortnight".toList =
      some ⟨some .tomorrow, [⟨true, ['1'], "fortnight".toList, "+ 1 fortnight".toList⟩]⟩ := by
    decide +kernel
  have hbase : ¬ BaseMissing "tomorrow + 1 fortnight" ⟨⟨0, 0⟩, 0⟩ := by decide +kernel
  have hmissing : BaseMissing "tomorrow + 1 fortnight" ⟨⟨8210266876799, 0⟩, 0⟩ := by
    decide +kernel
  have hnone : ¬ ∃ e : LaxExpression, e.text = "tomorrow + 1 fortnight" := by
    rintro ⟨e, he⟩
    have hparse := e.parse?_text
    rw [he, hread', Option.some_inj] at hparse
    obtain ⟨s, -, hs⟩ := List.mem_map.1 ((Expression.mk.inj hparse).2 ▸ List.mem_singleton_self _)
    have hunit : s.unit.form s.plural ++ s.endings = "fortnight".toList :=
      congrArg Adjustment.unit hs
    cases hs' : s.unit <;> cases hp : s.plural <;>
      simp [hs', hp, TimeUnit.form, TimeUnit.word] at hunit
  have hstrict : ¬ ∃ x : SpelledExpression, x.text = "now + 1 dayss" := by
    rintro ⟨x, hx⟩
    have hparse := x.parse?_text
    rw [hx, hread, Option.some_inj] at hparse
    obtain ⟨s, -, hs⟩ := List.mem_map.1 ((Expression.mk.inj hparse).2 ▸ List.mem_singleton_self _)
    have hunit : s.unit.form s.plural = "dayss".toList := congrArg Adjustment.unit hs
    cases hs' : s.unit <;> cases hp : s.plural <;>
      simp [hs', hp, TimeUnit.form, TimeUnit.word] at hunit
  obtain ⟨e, he, -⟩ := (evaluate_within_grammar "now + 1 dayss" ⟨⟨0, 0⟩, 0⟩).1 _ hvalue
  exact ⟨⟨hvalue, ⟨e, he⟩, hstrict⟩, hnone,
    ⟨hbase, ((evaluate_within_grammar _ _).2 hnone).2 hbase⟩,
    hmissing, ((evaluate_within_grammar _ _).2 hnone).1 hmissing⟩

end Exemplar.Calendar
