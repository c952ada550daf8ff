/-!
# Shortest decimals

A binary number stands for every real that rounds to it. Of the decimals among
those reals, the ones that take the fewest digits lie on the coarsest decimal
grid `10 ^ k` that meets the interval at all, so `Binary.shortest` walks the
grids from the coarse end and stops at the first hit. On one grid only the two
neighbours of the number have to be looked at: if any point of the grid lies in
the interval, so does one of these. The nearer one wins, and of two equally
near ones the even one.

All comparisons are between natural numbers. The common unit of a grid and an
interval is chosen so that neither needs a fraction.
-/

namespace Exemplar

/-- The decimal number `coefficient * 10 ^ exponent`. -/
structure Decimal where
  coefficient : Nat
  exponent : Int
deriving DecidableEq, Repr, Inhabited

/-- The binary number `mantissa * 2 ^ exponent`. It is `narrow` when the next
number below is only half as far away as the next one above, which happens at
the powers of two. -/
structure Binary where
  mantissa : Nat
  exponent : Int
  narrow : Bool
deriving DecidableEq, Repr

namespace Binary

/-- The magnitude of the 64-bit floating-point number with these bits, for
finite numbers. -/
def ofBits (bits : UInt64) : Binary :=
  let fraction : Nat := bits.toNat % Nat.pow 2 52
  let biased : Nat := bits.toNat / Nat.pow 2 52 % Nat.pow 2 11
  if biased = 0 then ⟨fraction, -1074, false⟩
  else ⟨fraction + Nat.pow 2 52, (biased : Int) - 1075, fraction = 0 && 1 < biased⟩

/-- A grid and an interval, measured in one unit: the step of the grid, the
number itself and the ends of the interval of reals that round to it. -/
structure Scaled where
  step : Nat
  lower : Nat
  value : Nat
  upper : Nat
  /-- The ends round to the number too. -/
  closed : Bool

/-- The grid `10 ^ k` and the interval around `b`. The interval is given in
quarters of the spacing of binary numbers; an interval ends halfway to the
next number, and the ends go to the number with the even mantissa. -/
def scaled (b : Binary) (k : Int) : Scaled :=
  let grid := Nat.pow 10 k.toNat * Nat.pow 2 (2 - b.exponent).toNat
  let quarter := Nat.pow 10 (-k).toNat * Nat.pow 2 (b.exponent - 2).toNat
  { step := grid
    lower := (4 * b.mantissa - if b.narrow then 1 else 2) * quarter
    value := 4 * b.mantissa * quarter
    upper := (4 * b.mantissa + 2) * quarter
    closed := b.mantissa % 2 = 0 }

def Scaled.holds (s : Scaled) (c : Nat) : Bool :=
  if s.closed then s.lower ≤ c * s.step && c * s.step ≤ s.upper
  else s.lower < c * s.step && c * s.step < s.upper

/-- The point of the grid in the interval that is nearest to the number. -/
def Scaled.nearest? (s : Scaled) : Option Nat :=
  let below := s.value / s.step
  let above := below + 1
  match s.holds below, s.holds above with
  | false, false => none
  | true, false => some below
  | false, true => some above
  | true, true =>
    let down := s.value - below * s.step
    let up := above * s.step - s.value
    if down < up then some below
    else if up < down then some above
    else if below % 2 = 0 then some below else some above

/-- The decimal with the fewest digits that rounds to `b`, for a positive
number in the range of 64-bit floating point. -/
def shortest (b : Binary) : Decimal :=
  let grids := (List.range 660).map fun (i : Nat) => (310 : Int) - i
  (grids.findSome? fun k => (b.scaled k).nearest?.map (⟨·, k⟩)).getD ⟨0, 0⟩

end Binary

end Exemplar
