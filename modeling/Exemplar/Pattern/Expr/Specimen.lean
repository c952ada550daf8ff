import Exemplar.Pattern.Expr.Basic

/-!
# A specimen of an expression

The text that shows best what an expression matches: the first branch of every
choice, as few repetitions as there can be but one rather than none, and of
every class the character that is easiest to read. Conditions on positions add
nothing, so the text need not match where there are any.
-/

namespace Exemplar

/-- Characters in the order in which they are easiest to read. -/
def readableBands : List CharRange :=
  [.between 'a' 'z', .between '0' '9', .between 'A' 'Z', .between ' ' '~']

/-- The member of a set that is easiest to read. -/
def CharSet.specimen? (s : CharSet) : Option Char :=
  (readableBands.findSome? fun band =>
    s.ranges.findSome? fun r => (r.inter? band).map (·.first)) <|>
    s.ranges.head?.map (·.first)

namespace Pattern.Expr

/-- How often a repetition is shown. -/
def specimenCount (min : Nat) (max : Option Nat) : Nat :=
  if min = 0 then (if max = some 0 then 0 else 1) else min

mutual

def specimen : Expr → List Char
  | .empty => []
  | .literal cs => cs
  | .cls s _ => s.specimen?.toList
  | .look _ => []
  | .repetition min max _ e => (List.replicate (specimenCount min max) (specimen e)).flatten
  | .capture _ _ e => specimen e
  | .concat es => specimenAll es
  | .alternation es => specimenFirst es

def specimenAll : List Expr → List Char
  | [] => []
  | e :: es => specimen e ++ specimenAll es

def specimenFirst : List Expr → List Char
  | [] => []
  | e :: _ => specimen e

end

end Pattern.Expr

end Exemplar
