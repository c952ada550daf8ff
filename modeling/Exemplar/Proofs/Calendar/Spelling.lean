import Exemplar.Proofs.Calendar.Numeral
import Exemplar.Proofs.Calendar.Written

/-!
# Expressions as they are spelled

An expression is a base and steps, and has many spellings: blanks may stand between any two
of its parts, an amount may have zeros in front, and a unit may be in the plural. A
`SpelledExpression` is an expression with all these choices made, and `Expression.parse?`
reads its text back, whatever they are: `parse?_text`.

The reader does not count the endings of a plural. So there are more texts that it takes for
an expression: those of a `LaxExpression`, where the ending may be there more than once. They
have the shape of a `WrittenExpression`, where digits and letters are any, and this is how they
are read back.
-/

namespace Exemplar.Calendar

open Unicode (CodePoints isDecimalDigit)

inductive TimeUnit where
  | second
  | minute
  | hour
  | day
  | week
  | month
  | year
deriving DecidableEq, Repr

namespace TimeUnit

def word : TimeUnit → List Char
  | .second => ['s', 'e', 'c', 'o', 'n', 'd']
  | .minute => ['m', 'i', 'n', 'u', 't', 'e']
  | .hour => ['h', 'o', 'u', 'r']
  | .day => ['d', 'a', 'y']
  | .week => ['w', 'e', 'e', 'k']
  | .month => ['m', 'o', 'n', 't', 'h']
  | .year => ['y', 'e', 'a', 'r']

def form (unit : TimeUnit) (plural : Bool) : List Char :=
  if plural then unit.word ++ ['s'] else unit.word

def span : TimeUnit → Span
  | .second => .seconds 1
  | .minute => .seconds 60
  | .hour => .seconds 3600
  | .day => .seconds 86400
  | .week => .seconds 604800
  | .month => .months 1
  | .year => .months 12

theorem ofUnit?_form (unit : TimeUnit) (plural : Bool) :
    Span.ofUnit? (.ofList (singular (unit.form plural))) = some unit.span := by
  cases unit <;> cases plural <;> decide

theorem form_ne_nil (unit : TimeUnit) (plural : Bool) : unit.form plural ≠ [] := by
  cases unit <;> cases plural <;> decide

theorem isUnitLetter_of_mem_form {unit : TimeUnit} {plural : Bool} {c : Char}
    (h : c ∈ unit.form plural) : isUnitLetter c = true := by
  have hall : (unit.form plural).all isUnitLetter = true := by
    cases unit <;> cases plural <;> decide
  exact List.all_eq_true.1 hall c h

end TimeUnit

structure Step where
  forward : Bool
  amount : Nat
  unit : TimeUnit
  amount_lt : amount < amountBound

/-- A step with its spelling. -/
structure SpelledStep extends Step where
  front : Blanks
  behindSign : Blanks
  /-- The amount has at least so many digits. -/
  width : Nat
  behindAmount : Blanks
  plural : Bool

namespace SpelledStep

variable (s : SpelledStep)

def sign : Char := if s.forward then '+' else '-'

def body : List Char :=
  s.behindSign.chars ++
    (padded s.width s.amount ++ (s.behindAmount.chars ++ s.unit.form s.plural))

def text : List Char := s.sign :: s.body

def adjustment : Adjustment :=
  ⟨s.forward, padded s.width s.amount, s.unit.form s.plural, s.text⟩

end SpelledStep

def stepsText (steps : List SpelledStep) (back : Blanks) : List Char :=
  steps.foldr (fun s rest => s.front.chars ++ (s.text ++ rest)) back.chars

/-- An expression with its spelling. -/
structure SpelledExpression where
  front : Blanks
  base? : Option Base
  steps : List SpelledStep
  back : Blanks

def SpelledExpression.text (e : SpelledExpression) : String :=
  .ofList (e.front.chars ++ ((e.base?.elim [] Base.word) ++ stepsText e.steps e.back))

/-! ## Any number of plural endings -/

/-- A step whose unit, if it is in the plural, may have more endings than one. -/
structure LaxStep extends SpelledStep where
  extra : Nat
  extra_eq_zero : plural = false → extra = 0

namespace LaxStep

variable (s : LaxStep)

def endings : List Char := List.replicate s.extra 's'

def reading : Adjustment :=
  ⟨s.forward, padded s.width s.amount, s.unit.form s.plural ++ s.endings,
    s.toSpelledStep.text ++ s.endings⟩

end LaxStep

def laxText (steps : List LaxStep) (back : Blanks) : List Char :=
  steps.foldr (fun s rest => s.front.chars ++ (s.toSpelledStep.text ++ s.endings ++ rest))
    back.chars

theorem laxText_cons (s : LaxStep) (steps : List LaxStep) (back : Blanks) :
    laxText (s :: steps) back =
      s.front.chars ++ (s.toSpelledStep.text ++ s.endings ++ laxText steps back) := rfl

/-- An expression with its spelling, with any number of endings for a plural. -/
structure LaxExpression where
  front : Blanks
  base? : Option Base
  steps : List LaxStep
  back : Blanks

namespace LaxExpression

variable (e : LaxExpression)

def text : String :=
  .ofList (e.front.chars ++ ((e.base?.elim [] Base.word) ++ laxText e.steps e.back))

def reading : Expression := ⟨e.base?, e.steps.map LaxStep.reading⟩

/-- No plural has more than one ending. -/
def Strict : Prop := ∀ s ∈ e.steps, s.extra = 0

def strict : SpelledExpression :=
  ⟨e.front, e.base?, e.steps.map (·.toSpelledStep), e.back⟩

variable {e}

theorem Strict.text_eq (h : e.Strict) : e.strict.text = e.text := by
  obtain ⟨front, base?, steps, back⟩ := e
  have hsteps : stepsText (steps.map (·.toSpelledStep)) back = laxText steps back := by
    induction steps with
    | nil => rfl
    | cons s steps ih =>
        obtain ⟨hs, hsteps⟩ := List.forall_mem_cons.1 h
        have hendings : s.endings = [] := by rw [LaxStep.endings, hs, List.replicate_zero]
        rw [laxText_cons, hendings, List.append_nil, ← ih hsteps]
        rfl
  rw [SpelledExpression.text, text, strict, hsteps]

end LaxExpression

def SpelledStep.lax (s : SpelledStep) : LaxStep := ⟨s, 0, fun _ => rfl⟩

theorem SpelledStep.reading_lax (s : SpelledStep) : s.lax.reading = s.adjustment := by
  simp [lax, LaxStep.reading, LaxStep.endings, adjustment]

def SpelledExpression.lax (e : SpelledExpression) : LaxExpression :=
  ⟨e.front, e.base?, e.steps.map (·.lax), e.back⟩

theorem SpelledExpression.text_lax (e : SpelledExpression) : e.lax.text = e.text := by
  have hstrict : e.lax.Strict := by
    simp [LaxExpression.Strict, lax, SpelledStep.lax]
  rw [← hstrict.text_eq, LaxExpression.strict, lax, List.map_map]
  exact congrArg (fun steps => text ⟨e.front, e.base?, steps, e.back⟩) (List.map_id _)

/-! ## Steps are read back -/

theorem isDecimalDigit_of_isDigit {c : Char} (h : c.isDigit = true) : isDecimalDigit c = true := by
  have hhas : c.isDigit = CodePoints.has [(0x30, 0x39)] c := by
    simp [Char.isDigit, CodePoints.has, UInt32.le_iff_toNat_le]
  rw [hhas] at h
  simp only [isDecimalDigit, CodePoints.has, Unicode.decimalDigits, List.any_cons] at h ⊢
  simp_all

namespace LaxStep

variable (s : LaxStep)

theorem isUnitLetter_of_mem_unit {c : Char} (hc : c ∈ s.unit.form s.plural ++ s.endings) :
    isUnitLetter c = true := by
  rcases List.mem_append.1 hc with hform | hending
  · exact TimeUnit.isUnitLetter_of_mem_form hform
  · rw [List.eq_of_mem_replicate hending]
    rfl

def written : WrittenAdjustment where
  front := s.front
  forward := s.forward
  behindSign := s.behindSign
  digits := padded s.width s.amount
  behindDigits := s.behindAmount
  letters := s.unit.form s.plural ++ s.endings
  digits_ne_nil := padded_ne_nil _ _
  isDecimalDigit_of_mem _ hc := isDecimalDigit_of_isDigit (isDigit_of_mem_padded hc)
  letters_ne_nil := List.append_ne_nil_of_left_ne_nil (TimeUnit.form_ne_nil _ _) _
  isUnitLetter_of_mem _ hc := s.isUnitLetter_of_mem_unit hc

theorem text_written : s.written.text = s.toSpelledStep.text ++ s.endings := by
  simp only [WrittenAdjustment.text, WrittenAdjustment.body, SpelledStep.text, SpelledStep.body,
    List.cons_append, List.append_assoc]
  rfl

theorem reading_written : s.written.reading = s.reading := by
  rw [WrittenAdjustment.reading, text_written]
  rfl

end LaxStep

theorem laxText_eq_rowText (steps : List LaxStep) (back : Blanks) :
    laxText steps back = rowText (steps.map (·.written)) ++ back.chars := by
  induction steps with
  | nil => rfl
  | cons s steps ih =>
      rw [laxText_cons, ih, ← s.text_written]
      simp only [rowText, List.map_cons, List.flatMap_cons, List.append_assoc]
      rfl

namespace LaxExpression

variable (e : LaxExpression)

def written : WrittenExpression := ⟨e.front, e.base?, e.steps.map (·.written), e.back⟩

theorem chars_written : e.written.chars = e.text.toList := by
  rw [text, String.toList_ofList, laxText_eq_rowText]
  rfl

/-- An expression is read back from any spelling, also with endings that are too many. -/
theorem parse?_text : Expression.parse? e.text.toList = some e.reading := by
  rw [← chars_written, Expression.parse?_chars, written, reading, List.map_map]
  simp only [Function.comp_def, LaxStep.reading_written]

end LaxExpression

theorem SpelledExpression.parse?_text (e : SpelledExpression) :
    Expression.parse? e.text.toList = some ⟨e.base?, e.steps.map SpelledStep.adjustment⟩ := by
  rw [← e.text_lax, e.lax.parse?_text, LaxExpression.reading, lax, List.map_map]
  simp only [Function.comp_def, SpelledStep.reading_lax]

end Exemplar.Calendar
