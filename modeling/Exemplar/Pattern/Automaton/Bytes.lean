import Exemplar.CharSet

/-!
# Ranges of characters as ranges of bytes

An automaton reads bytes. The characters of a range are turned into sequences
of byte ranges: a sequence stands for all characters whose first byte is in its
first range, whose second byte is in its second range, and so on. A range of
characters is cut until that is so: where the number of bytes changes, and where
one part does not fill the blocks that the other part fills.
-/

namespace Exemplar.Pattern.Automaton

structure ByteRange where
  first : Nat
  last : Nat
deriving DecidableEq, Repr

def bytesOf (c : Nat) : List Nat :=
  if c < 0x80 then [c]
  else if c < 0x800 then [0xc0 + c / 64, 0x80 + c % 64]
  else if c < 0x10000 then [0xe0 + c / 4096, 0x80 + c / 64 % 64, 0x80 + c % 64]
  else [0xf0 + c / 262144, 0x80 + c / 4096 % 64, 0x80 + c / 64 % 64, 0x80 + c % 64]

/-- The first code point behind `a` with more bytes, if it is not behind `b`. -/
def lengthCut? (a b : Nat) : Option Nat :=
  [0x80, 0x800, 0x10000].find? fun cut => a < cut && cut ≤ b

/-- Where the range from `a` to `b` enters or leaves blocks that it fills. -/
def blockCut? (a b : Nat) : Option Nat :=
  if b < 0x80 then none
  else [64, 4096, 262144].findSome? fun block =>
    if a / block = b / block then none
    else if a % block ≠ 0 then some ((a / block + 1) * block)
    else if b % block ≠ block - 1 then some (b / block * block)
    else none

def parts (a b : Nat) : List (Nat × Nat) :=
  match lengthCut? a b <|> blockCut? a b with
  | some cut => if a < cut ∧ cut ≤ b then parts a (cut - 1) ++ parts cut b else [(a, b)]
  | none => [(a, b)]
termination_by b - a

/-- The byte ranges of the characters of a range, in ascending order. -/
def sequences (r : CharRange) : List (List ByteRange) :=
  let a := r.first.toNat
  let b := r.last.toNat
  let ranges := if a < 0xd800 ∧ 0xdfff < b then parts a 0xd7ff ++ parts 0xe000 b else parts a b
  ranges.map fun (a, b) => List.zipWith ByteRange.mk (bytesOf a) (bytesOf b)

end Exemplar.Pattern.Automaton
