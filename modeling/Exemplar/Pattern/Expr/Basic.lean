import Exemplar.CharSet

/-!
# The meaning of a pattern

An `Expr` says what a pattern matches: which characters, where, in what order
and how often. Flags and spellings are gone. Expressions are built by the
functions here only, which keep them in a form that is as flat and as short as
it can be without looking for it:

* nothing empty in a concatenation, no concatenation inside of another one, and
  literals that follow each other in one;
* no alternation inside of another one, characters and classes to choose from
  in one class, and what all branches begin with in front of the choice.
-/

namespace Exemplar.Pattern

/-- A condition on what is around a position, in terms of words. -/
inductive WordLook where
  | boundary
  | notBoundary
  | start
  | stop
  | startHalf
  | stopHalf
deriving DecidableEq, Repr

/-- A condition on a position. The words of `basic` conditions are made of
basic characters only. -/
inductive Look where
  | start
  | stop
  | startLine
  | stopLine
  | startLineCrlf
  | stopLineCrlf
  | word (look : WordLook) (basic : Bool)
deriving DecidableEq, Repr

/-- What a pattern matches. A class is `basic` if it was written where classes
have basic characters only. -/
inductive Expr where
  | empty
  | literal (chars : List Char)
  | cls (set : CharSet) (basic : Bool)
  | look (look : Look)
  | repetition (min : Nat) (max : Option Nat) (greedy : Bool) (sub : Expr)
  | capture (index : Nat) (name : Option String) (sub : Expr)
  | concat (items : List Expr)
  | alternation (branches : List Expr)
deriving Inhabited

namespace Expr

mutual

def same : Expr → Expr → Bool
  | .empty, .empty => true
  | .literal cs, .literal ds => cs = ds
  | .cls s b, .cls s' b' => s = s' && b = b'
  | .look l, .look l' => l = l'
  | .repetition min max greedy e, .repetition min' max' greedy' e' =>
    min = min' && max = max' && greedy = greedy' && same e e'
  | .capture i name e, .capture i' name' e' => i = i' && name = name' && same e e'
  | .concat es, .concat es' => sameList es es'
  | .alternation es, .alternation es' => sameList es es'
  | _, _ => false

def sameList : List Expr → List Expr → Bool
  | [], [] => true
  | e :: es, e' :: es' => same e e' && sameList es es'
  | _, _ => false

end

mutual

/-- Whatever the expression matches is empty. -/
def zeroWidth : Expr → Bool
  | .empty => true
  | .literal cs => cs.isEmpty
  | .cls _ _ => false
  | .look _ => true
  | .repetition _ max _ e => max.isSome && zeroWidth e
  | .capture _ _ e => zeroWidth e
  | .concat es => zeroWidthAll es
  | .alternation es => zeroWidthAll es

def zeroWidthAll : List Expr → Bool
  | [] => true
  | e :: es => zeroWidth e && zeroWidthAll es

end

mutual

def size : Expr → Nat
  | .repetition _ _ _ e => size e + 1
  | .capture _ _ e => size e + 1
  | .concat es => sizeList es + 1
  | .alternation es => sizeList es + 1
  | _ => 1

def sizeList : List Expr → Nat
  | [] => 0
  | e :: es => size e + sizeList es

end

/-- The expression that matches nothing. -/
def fail : Expr := .cls .empty true

def ofSet (s : CharSet) (basic : Bool) : Expr :=
  if s.ranges.isEmpty then fail
  else match s.single? with
    | some c => .literal [c]
    | none => .cls s basic

/-- An expression several times. What is empty need not be repeated more than
once, and what is not repeated at all is empty. -/
def replicate (min : Nat) (max : Option Nat) (greedy : Bool) (e : Expr) : Expr :=
  let (min, max) : Nat × Option Nat :=
    if e.zeroWidth then (Min.min min 1, some ((max.map (Min.min · 1)).getD 1)) else (min, max)
  if min = 0 ∧ max = some 0 then .empty
  else if min = 1 ∧ max = some 1 then e
  else .repetition min max greedy e

def parts : Expr → List Expr
  | .empty => []
  | .concat es => es
  | e => [e]

/-- Put an expression in front of others, and a literal together with the
literal behind it. -/
def prepend : Expr → List Expr → List Expr
  | .literal cs, .literal ds :: es => .literal (cs ++ ds) :: es
  | e, es => e :: es

def sequence (es : List Expr) : Expr :=
  match (es.flatMap parts).foldr prepend [] with
  | [] => .empty
  | [e] => e
  | es => .concat es

def choices : Expr → List Expr
  | .alternation es => es
  | e => [e]

def char? : Expr → Option Char
  | .literal [c] => some c
  | _ => none

def set? : Expr → Option CharSet
  | .cls s basic => if basic && !s.allBelow 0x80 then none else some s
  | _ => none

def items? : Expr → Option (List Expr)
  | .concat es => some es
  | _ => none

def commonPrefix : List Expr → List Expr → List Expr
  | e :: es, e' :: es' => if same e e' then e :: commonPrefix es es' else []
  | _, _ => []

/-- What all of several concatenations begin with, and what each has behind it. -/
def factor? (branches : List Expr) : Option (List Expr × List (List Expr)) :=
  match branches.mapM items? with
  | some (first :: others) =>
    let front := others.foldl commonPrefix first
    if front.isEmpty then none
    else some (front, (first :: others).map (·.drop front.length))
  | _ => none

/-- One of several expressions. What all branches begin with is put in front of
the choice between what they have behind it; `bound` limits how often that is
done. -/
def choose : (bound : Nat) → List Expr → Expr
  | bound, es =>
    match es.flatMap choices with
    | [] => fail
    | [e] => e
    | branches =>
      match branches.mapM char? with
      | some cs => ofSet (.ofRanges (cs.map .single)) false
      | none =>
        match branches.mapM set? with
        | some sets => ofSet (sets.foldl CharSet.union .empty) false
        | none =>
          match bound, factor? branches with
          | bound + 1, some (front, behind) =>
            sequence (front ++ [choose bound (behind.map sequence)])
          | _, _ => .alternation branches

/-- One of several expressions. Every time something is put in front of a
choice, the choice gets smaller. -/
def oneOf (es : List Expr) : Expr :=
  choose (sizeList es) es

end Expr

end Exemplar.Pattern
