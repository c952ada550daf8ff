import Exemplar.Error
import Exemplar.Unicode.Blank
import Exemplar.Unicode.Digit

/-!
# Date expressions

A date expression moves a moment: `tomorrow - 2 hours`. It is a base, which may
be left out, and adjustments, each of them a sign, a number and a unit. Blanks
may stand between any two of these.

Reading an expression and applying it are apart: `Expression.parse?` knows only
the shape of a text, and what numbers and units mean is found out when the
adjustments are applied, from left to right. The first one that cannot be
applied is reported.
-/

namespace Exemplar.Calendar

open Unicode (isBlank isDecimalDigit)

inductive Base where
  | now
  | today
  | tomorrow
  | yesterday
deriving DecidableEq, Repr

def Base.word : Base → List Char
  | .now => ['n', 'o', 'w']
  | .today => ['t', 'o', 'd', 'a', 'y']
  | .tomorrow => ['t', 'o', 'm', 'o', 'r', 'r', 'o', 'w']
  | .yesterday => ['y', 'e', 's', 't', 'e', 'r', 'd', 'a', 'y']

def Base.all : List Base := [.now, .today, .tomorrow, .yesterday]

structure Adjustment where
  forward : Bool
  amount : List Char
  unit : List Char
  /-- All of it, from the sign to the unit. -/
  text : List Char
deriving DecidableEq, Repr

structure Expression where
  base? : Option Base
  adjustments : List Adjustment
deriving DecidableEq, Repr

def isUnitLetter (c : Char) : Bool := 'a' ≤ c && c ≤ 'z'

namespace Base

def split? (cs : List Char) : Option Base × List Char :=
  match all.find? fun b => b.word.isPrefixOf cs with
  | some b => (some b, cs.drop b.word.length)
  | none => (none, cs)

end Base

namespace Adjustment

def direction? (c : Char) : Option Bool :=
  if c = '+' then some true else if c = '-' then some false else none

/-- The adjustment at the front of a text that begins with `c`, and the rest. -/
def split? (c : Char) (cs : List Char) : Option (Adjustment × List Char) :=
  (direction? c).bind fun forward =>
    let behindSign := cs.dropWhile isBlank
    let digits := behindSign.takeWhile isDecimalDigit
    let behind := (behindSign.dropWhile isDecimalDigit).dropWhile isBlank
    let letters := behind.takeWhile isUnitLetter
    let rest := behind.dropWhile isUnitLetter
    if digits = [] ∨ letters = [] then none
    else some (⟨forward, digits, letters, c :: cs.take (cs.length - rest.length)⟩, rest)

theorem length_of_split? {c : Char} {cs rest : List Char} {a : Adjustment}
    (h : split? c cs = some (a, rest)) : rest.length ≤ cs.length := by
  simp only [split?, Option.bind_eq_some_iff] at h
  obtain ⟨_, _, h⟩ := h
  split at h
  · cases h
  · simp only [Option.some.injEq, Prod.mk.injEq] at h
    rw [← h.2]
    have sub (p : Char → Bool) (ds : List Char) : (ds.dropWhile p).length ≤ ds.length :=
      (List.dropWhile_sublist p).length_le
    exact Nat.le_trans (sub _ _) <| Nat.le_trans (sub _ _) <| Nat.le_trans (sub _ _) (sub _ _)

def readAll? (cs : List Char) : Option (List Adjustment) :=
  match _ : cs.dropWhile isBlank with
  | [] => some []
  | c :: ds =>
    match _ : split? c ds with
    | none => none
    | some (a, rest) => (readAll? rest).map (a :: ·)
termination_by cs.length
decreasing_by
  rename_i h h'
  have h₁ := (List.dropWhile_suffix isBlank (l := cs)).length_le
  have h₂ := length_of_split? h'
  rw [h, List.length_cons] at h₁
  omega

/-- The adjustments that a search finds in a text, from left to right. What stands between
them is passed over. -/
def scan : List Char → List Adjustment
  | [] => []
  | c :: cs =>
    match _ : split? c cs with
    | none => scan cs
    | some (a, rest) => a :: scan rest
termination_by cs => cs.length
decreasing_by
  · simp
  · rename_i h
    exact Nat.lt_succ_of_le (length_of_split? h)

end Adjustment

def Expression.parse? (cs : List Char) : Option Expression :=
  let (base?, rest) := Base.split? (cs.dropWhile isBlank)
  (Adjustment.readAll? rest).map (⟨base?, ·⟩)

inductive Span where
  | seconds (n : Nat)
  | months (n : Nat)
deriving DecidableEq, Repr

def Span.ofUnit? (unit : String) : Option Span :=
  match unit with
  | "second" => some (.seconds 1)
  | "minute" => some (.seconds 60)
  | "hour" => some (.seconds 3600)
  | "day" => some (.seconds 86400)
  | "week" => some (.seconds 604800)
  | "month" => some (.months 1)
  | "year" => some (.months 12)
  | _ => none

/-- A word without any `s` at its end. -/
def singular (word : List Char) : List Char := (word.reverse.dropWhile (· = 's')).reverse

def amount? (digits : List Char) : Option Nat :=
  if digits.all Char.isDigit then some (digits.foldl (fun n c => 10 * n + (c.toNat - 48)) 0)
  else none

def amountBound : Nat := Nat.pow 2 32

def monthsBound : Nat := Nat.pow 2 31

def signed (forward : Bool) (n : Nat) : Int := if forward then n else -n

namespace Moment

/-- The moment that is a number of spans away, if the calendar goes so far. -/
def shift? (m : Moment) (forward : Bool) (amount : Nat) : Span → Option Moment
  | .seconds n => m.addSeconds? (signed forward (amount * n))
  | .months n =>
    if amount * n < monthsBound then m.addMonths? (signed forward (amount * n)) else none

def adjust (m : Moment) (a : Adjustment) : Except ExpressionFault Moment :=
  match amount? a.amount with
  | none => .error .amount
  | some n =>
    if n < amountBound then
      match (Span.ofUnit? (.ofList (singular a.unit))).bind (m.shift? a.forward n) with
      | none => .error (.adjustment (.ofList a.text))
      | some m => .ok m
    else .error .amount

def adjustAll (m : Moment) : List Adjustment → Except ExpressionFault Moment
  | [] => .ok m
  | a :: as =>
    match m.adjust a with
    | .error e => .error e
    | .ok m => m.adjustAll as

/-- The moment that adjustments start from, if the calendar goes so far. -/
def atBase? (m : Moment) : Option Base → Option Moment
  | none | some .now | some .today => some m
  | some .tomorrow => m.addSeconds? secondsPerDay
  | some .yesterday => m.addSeconds? (-secondsPerDay)

end Moment

def evaluate (text : String) (clock : Moment) : Except Failure Moment :=
  match Expression.parse? text.toList with
  | none => .error (.refused (.expression text .grammar))
  | some e =>
    match clock.atBase? e.base? with
    | none => .error .outOfCalendar
    | some m =>
      match m.adjustAll e.adjustments with
      | .error fault => .error (.refused (.expression text fault))
      | .ok m => .ok m

end Exemplar.Calendar
