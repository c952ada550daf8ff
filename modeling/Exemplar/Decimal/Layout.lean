import Exemplar.Decimal.Shortest

/-!
# The layout of a decimal

How a decimal is written out. The digits come from elsewhere; a `Layout` says
which magnitudes are written positionally and which with an exponent.
-/

namespace Exemplar

namespace Decimal

def digits (d : Decimal) : List Char :=
  Nat.toDigits 10 d.coefficient

/-- The power of ten of the leading digit. -/
def magnitude (d : Decimal) : Int :=
  d.exponent + d.digits.length - 1

/-- Digits with the point in place and at least one digit on either side. -/
def positional (d : Decimal) : List Char :=
  let ds := d.digits
  let places := (-d.exponent).toNat
  if 0 ≤ d.exponent then
    ds ++ List.replicate d.exponent.toNat '0' ++ ['.', '0']
  else if places < ds.length then
    ds.take (ds.length - places) ++ '.' :: ds.drop (ds.length - places)
  else
    '0' :: '.' :: List.replicate (places - ds.length) '0' ++ ds

/-- One leading digit, the others behind a point if there are any, and the
exponent with its sign. -/
def scientific (d : Decimal) : List Char :=
  let exponent := 'e' :: (if d.magnitude < 0 then '-' else '+') ::
    Nat.toDigits 10 d.magnitude.natAbs
  match d.digits with
  | [] => exponent
  | [c] => c :: exponent
  | c :: cs => c :: '.' :: cs ++ exponent

/-- The magnitudes that are written positionally: the leading digit stands at
`10 ^ least` or above it, and below `10 ^ bound`. -/
structure Layout where
  least : Int
  bound : Int

def Layout.write (l : Layout) (d : Decimal) : List Char :=
  if l.least ≤ d.magnitude ∧ d.magnitude < l.bound then d.positional else d.scientific

end Decimal

end Exemplar
