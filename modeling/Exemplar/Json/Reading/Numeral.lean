import Exemplar.Json.Reading.Text

/-!
# Reading numbers

A numeral is read digit by digit, and only then is its value worked out. An
integer in the range of 64 bits is an integer; every other numeral is a
floating-point number.

The value of a floating-point numeral is the quotient or product of two such
numbers, a significand and a power of ten, so it is off by a little where
neither of them is exact. The significand has as many digits as 64 bits hold
and does without the others.
-/

namespace Exemplar.Json

open Exemplar.Reading

structure Numeral where
  negative : Bool
  whole : List Char
  fraction : List Char
  /-- The sign and the digits of the exponent, with true for a negative one. -/
  exponent? : Option (Bool × List Char)

/-- The fault of a numeral that stops too early. -/
def stopsEarly {α : Type} (atEnd : FaultCause) (rest : List Char) : Reading Fault α :=
  if rest.isEmpty then failAt atEnd rest else failBehind .number rest

def readDigits (atEnd : FaultCause) (cs : List Char) : Reading Fault (List Char) :=
  let digits := cs.takeWhile Char.isDigit
  if digits.isEmpty then stopsEarly atEnd cs else .ok (digits, cs.dropWhile Char.isDigit)

/-- Read the digits in front of the point. No other digit follows a leading zero. -/
def readWhole (atEnd : FaultCause) (cs : List Char) : Reading Fault (List Char) :=
  match cs with
  | '0' :: c :: rest => if c.isDigit then failBehind .number (c :: rest) else .ok (['0'], c :: rest)
  | cs => readDigits atEnd cs

def readFraction (atEnd : FaultCause) (cs : List Char) : Reading Fault (List Char) :=
  match cs with
  | '.' :: rest => readDigits atEnd rest
  | cs => .ok ([], cs)

def readExponent (atEnd : FaultCause) (cs : List Char) :
    Reading Fault (Option (Bool × List Char)) :=
  match cs with
  | c :: rest =>
    if c = 'e' ∨ c = 'E' then
      match rest with
      | '+' :: rest => (readDigits atEnd rest).convert fun ds => some (false, ds)
      | '-' :: rest => (readDigits atEnd rest).convert fun ds => some (true, ds)
      | rest => (readDigits atEnd rest).convert fun ds => some (false, ds)
    else .ok (none, cs)
  | [] => .ok (none, [])

def readUnsigned (atEnd : FaultCause) (negative : Bool) (cs : List Char) : Reading Fault Numeral :=
  (readWhole atEnd cs).andThen fun whole rest =>
    (readFraction atEnd rest).andThen fun fraction rest =>
      (readExponent atEnd rest).convert fun exponent? => ⟨negative, whole, fraction, exponent?⟩

/-- Read a numeral. The fault of one that stops at the end of the text is `atEnd`. -/
def readNumeral (atEnd : FaultCause) (cs : List Char) : Reading Fault Numeral :=
  match cs with
  | '-' :: rest => readUnsigned atEnd true rest
  | cs => readUnsigned atEnd false cs

def digitValue (c : Char) : Nat := c.toNat - '0'.toNat

/-- Append digits to a number as long as the result stays below `bound`; the
digits that are left are given too. -/
def absorb (bound : Nat) : Nat → List Char → Nat × List Char
  | n, [] => (n, [])
  | n, c :: cs =>
    if 10 * n + digitValue c < bound then absorb bound (10 * n + digitValue c) cs
    else (n, c :: cs)

/-- The greatest exponent whose power of ten is a floating-point number. -/
def greatestPower : Nat := 308

def powerOfTen (k : Nat) : Float := Float.ofScientific 1 false k

/-- The floating-point number `significand * 10 ^ exponent`, if there is one. What
is too small is divided twice. -/
def scaled? (significand : Nat) (exponent : Int) : Option Float :=
  let f := significand.toUInt64.toFloat
  let k := exponent.natAbs
  if significand = 0 then some f
  else if 0 ≤ exponent then
    if k ≤ greatestPower ∧ (f * powerOfTen k).isFinite then some (f * powerOfTen k) else none
  else if k ≤ greatestPower then some (f / powerOfTen k)
  else some (f / powerOfTen greatestPower / powerOfTen (min (k - greatestPower) greatestPower))

namespace Numeral

/-- The significand, and its exponent without the one that is written. -/
def significand (n : Numeral) : Nat × Int :=
  let whole := absorb (Nat.pow 2 64) 0 n.whole
  let fraction := absorb (Nat.pow 2 64) whole.1 n.fraction
  (fraction.1, whole.2.length - (n.fraction.length - fraction.2.length : Nat))

/-- The exponent that is written, and the digits that it has no room for. -/
def exponent (n : Numeral) : Int × List Char :=
  match n.exponent? with
  | none => (0, [])
  | some (negative, digits) =>
    let e := absorb (Nat.pow 2 31) 0 digits
    (if negative then -(e.1 : Int) else e.1, e.2)

def value (n : Numeral) (rest : List Char) : Reading Fault Number :=
  let (significand, shift) := n.significand
  let (exponent, beyond) := n.exponent
  let sign (f : Float) : Number := .float (if n.negative then -f else f)
  if n.fraction = [] ∧ n.exponent? = none ∧ shift = 0 ∧
      (!n.negative ∨ 0 < significand ∧ significand ≤ Nat.pow 2 63) then
    .ok (.int (if n.negative then -(significand : Int) else significand), rest)
  else if beyond ≠ [] then
    if significand ≠ 0 ∧ 0 ≤ exponent then failAt .numberOutOfRange (beyond.drop 1 ++ rest)
    else .ok (sign 0, rest)
  else match scaled? significand (shift + exponent) with
    | some f => .ok (sign f, rest)
    | none => failAt .numberOutOfRange rest

end Numeral

def readNumber (cs : List Char) : Reading Fault Number :=
  (readNumeral .endInValue cs).andThen Numeral.value

theorem readDigits_within (atEnd : FaultCause) (cs : List Char) :
    (readDigits atEnd cs).Within cs :=
  .ite (.ite (.error _) (.error _)) (.ok _ (List.dropWhile_suffix _))

theorem readWhole_within (atEnd : FaultCause) (cs : List Char) :
    (readWhole atEnd cs).Within cs := by
  rw [readWhole.eq_def]
  split
  · exact .ite (.error _) (.ok _ (List.suffix_cons ..))
  · exact readDigits_within _ _

theorem readDigits_within_tail (atEnd : FaultCause) (c : Char) (cs : List Char) :
    (readDigits atEnd (c :: cs)).Within cs := by
  rw [readDigits]
  by_cases h : c.isDigit
  · simp only [List.takeWhile_cons_of_pos h, List.dropWhile_cons_of_pos h]
    exact .ok _ (List.dropWhile_suffix _)
  · simp only [List.takeWhile_cons_of_neg h, List.isEmpty_nil, if_true]
    exact .ite (.error _) (.error _)

theorem readWhole_within_tail (atEnd : FaultCause) (c : Char) (cs : List Char) :
    (readWhole atEnd (c :: cs)).Within cs := by
  rw [readWhole.eq_def]
  split
  · rename_i h
    cases h
    exact .ite (.error _) (.ok _ (List.suffix_refl _))
  · exact readDigits_within_tail _ _ _

theorem readFraction_within (atEnd : FaultCause) (cs : List Char) :
    (readFraction atEnd cs).Within cs := by
  rw [readFraction.eq_def]
  split
  · exact (readDigits_within _ _).cons _
  · exact .ok _ (List.suffix_refl _)

theorem readExponent_within (atEnd : FaultCause) (cs : List Char) :
    (readExponent atEnd cs).Within cs := by
  rw [readExponent.eq_def]
  split
  · refine .ite ?_ (.ok _ (List.suffix_refl _))
    split
    · exact (((readDigits_within _ _).convert _).cons _).cons _
    · exact (((readDigits_within _ _).convert _).cons _).cons _
    · exact ((readDigits_within _ _).convert _).cons _
  · exact .ok _ (List.suffix_refl _)

theorem readUnsigned_within (atEnd : FaultCause) (negative : Bool) (cs : List Char) :
    (readUnsigned atEnd negative cs).Within cs :=
  (readWhole_within _ _).andThen fun _ _ h =>
    ((readFraction_within _ _).andThen fun _ _ h =>
      ((readExponent_within _ _).convert _).trans h).trans h

theorem readUnsigned_within_tail (atEnd : FaultCause) (negative : Bool) (c : Char)
    (cs : List Char) : (readUnsigned atEnd negative (c :: cs)).Within cs :=
  (readWhole_within_tail _ _ _).andThen fun _ _ h =>
    ((readFraction_within _ _).andThen fun _ _ h =>
      ((readExponent_within _ _).convert _).trans h).trans h

end Exemplar.Json
