import Exemplar.Unicode.CaseFolding

/-!
# Sets of characters

A set of characters is a list of ranges. The operations keep it *canonical*:
the ranges ascend, and a code point that belongs to no range lies between any
two neighbours. The block of the surrogates is not part of the alphabet, and
the character before it is not taken to touch the character behind it.

The complement is made of the gaps between neighbours. A gap runs from the
character after one range to the character before the next, and like any range
it is written with its ends in order.
-/

namespace Exemplar

/-- The characters from `first` to `last`. -/
structure CharRange where
  first : Char
  last : Char
  le : first ≤ last
deriving DecidableEq

namespace CharRange

/-- The range with these two ends, in either order. -/
def between (a b : Char) : CharRange :=
  if h : a ≤ b then ⟨a, b, h⟩ else ⟨b, a, (Char.le_total a b).resolve_left h⟩

def single (c : Char) : CharRange := ⟨c, c, Char.le_refl c⟩

def has (r : CharRange) (c : Char) : Bool := r.first ≤ c && c ≤ r.last

def inter? (r s : CharRange) : Option CharRange :=
  let first := if r.first ≤ s.first then s.first else r.first
  let last := if r.last ≤ s.last then r.last else s.last
  if h : first ≤ last then some ⟨first, last, h⟩ else none

end CharRange

def charAfter (c : Char) : Char :=
  if c.toNat = 0xd7ff then '\ue000' else Char.ofNat (c.toNat + 1)

def charBefore (c : Char) : Char :=
  if c.toNat = 0xe000 then '\ud7ff' else Char.ofNat (c.toNat - 1)

def lastChar : Char := Char.ofNat 0x10ffff

structure CharSet where
  ranges : List CharRange
deriving DecidableEq

namespace CharSet

def empty : CharSet := ⟨[]⟩

def has (s : CharSet) (c : Char) : Bool := s.ranges.any (·.has c)

/-- Put ranges together where they overlap or touch, if they start in ascending
order. -/
def join : List CharRange → List CharRange
  | r :: s :: rest =>
    if s.first.toNat ≤ r.last.toNat + 1 then
      join (CharRange.between r.first (if r.last ≤ s.last then s.last else r.last) :: rest)
    else r :: join (s :: rest)
  | ranges => ranges
termination_by ranges => ranges.length

/-- The canonical set of the characters in some ranges. -/
def ofRanges (ranges : List CharRange) : CharSet :=
  ⟨join (ranges.mergeSort fun r s => r.first ≤ s.first)⟩

def range (a b : Char) : CharSet := ⟨[.between a b]⟩

def single (c : Char) : CharSet := ⟨[.single c]⟩

def union (s t : CharSet) : CharSet := ofRanges (s.ranges ++ t.ranges)

def inter (s t : CharSet) : CharSet :=
  ⟨s.ranges.flatMap fun r => t.ranges.filterMap r.inter?⟩

/-- The parts of a range that lie in front of `cut` and behind it. -/
def cutOut (cut r : CharRange) : List CharRange :=
  if (r.inter? cut).isNone then [r]
  else
    (if r.first < cut.first then [.between r.first (charBefore cut.first)] else []) ++
      (if cut.last < r.last then [.between (charAfter cut.last) r.last] else [])

def diff (s t : CharSet) : CharSet :=
  ⟨t.ranges.foldl (fun parts cut => parts.flatMap (cutOut cut)) s.ranges⟩

def symmDiff (s t : CharSet) : CharSet := (s.union t).diff (s.inter t)

/-- The gaps behind `r`, up to the end of the alphabet. -/
def gapsAfter (r : CharRange) : List CharRange → List CharRange
  | [] => if r.last < lastChar then [.between (charAfter r.last) lastChar] else []
  | s :: rest => .between (charAfter r.last) (charBefore s.first) :: gapsAfter s rest

def compl (s : CharSet) : CharSet :=
  match s.ranges with
  | [] => range '\x00' lastChar
  | r :: rest =>
    ⟨(if '\x00' < r.first then [.between '\x00' (charBefore r.first)] else []) ++
      gapsAfter r rest⟩

def single? (s : CharSet) : Option Char :=
  match s.ranges with
  | [r] => if r.first = r.last then some r.first else none
  | _ => none

def allBelow (s : CharSet) (bound : Nat) : Bool := s.ranges.all (·.last.toNat < bound)

def ofCodePoints (points : Unicode.CodePoints) : CharSet :=
  ofRanges (points.filterMap fun (a, b) =>
    let first := if 0xd800 ≤ a ∧ a ≤ 0xdfff then 0xe000 else a
    let last := if 0xd800 ≤ b ∧ b ≤ 0xdfff then 0xd7ff else b
    if first ≤ last then some (.between (Char.ofNat first) (Char.ofNat last)) else none)

/-- The set with all characters that are the same as a member up to case. -/
def foldCase (s : CharSet) : CharSet :=
  let others := Unicode.CaseFolding.groups.filter fun group => group.any (s.has ∘ Char.ofNat)
  s.union (ofRanges (others.flatten.map (CharRange.single ∘ Char.ofNat)))

def hasCase (c : Char) : Bool := Unicode.CaseFolding.groups.any (·.contains c.toNat)

/-- The set with both cases of the basic letters in it. -/
def foldBasicCase (s : CharSet) : CharSet :=
  let other (c : Char) (offset : Int) : CharRange := .single (Char.ofNat (c.toNat + offset).toNat)
  let lower := (List.range 26).map fun i => Char.ofNat ('a'.toNat + i)
  let upper := (List.range 26).map fun i => Char.ofNat ('A'.toNat + i)
  s.union (ofRanges
    ((upper.filter s.has).map (other · 32) ++ (lower.filter s.has).map (other · (-32))))

end CharSet

end Exemplar
