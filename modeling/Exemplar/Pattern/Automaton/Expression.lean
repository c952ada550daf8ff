import Exemplar.Pattern.Automaton.Class
import Exemplar.Pattern.Automaton.Words
import Exemplar.Pattern.Expr.Basic

/-!
# Automata of expressions

An expression for whole texts is used in two automata: one reads a text forward
and takes note of captures, one reads it backward. Their sizes are counted part
by part. `Expr.grow` adds the part of an expression to what is there already; it
says too whether the part ends in a fork, because a fork has one link more when
something follows. Counting stops as soon as there is too much.
-/

namespace Exemplar.Pattern

open Automaton

/-- The size so far, and whether it ends in a fork. -/
structure Growth where
  size : Size
  forked : Bool := false

namespace Growth

def link (g : Growth) (s : Size) : Size := if g.forked then s.addBranches 1 else s

def andThen (g : Growth) (f : Size → Option Growth) : Option Growth :=
  (f g.size).bind fun h => (g.link h.size).check.map ({ h with size := · })

def copies (f : Size → Option Growth) : Nat → Growth → Option Growth
  | 0, g => some g
  | n + 1, g =>
    match g.andThen f with
    | some h => copies f n h
    | none => none

/-- A part several more times, each time with a way around what follows. -/
def options (f : Size → Option Growth) : Nat → Growth → Option Growth
  | 0, g => some g
  | n + 1, g =>
    match g.andThen fun s => f ((s.addStates 1).addBranches 2) with
    | some h => options f n h
    | none => none

end Growth

def growStates (n : Nat) (s : Size) : Option Growth :=
  (s.addStates n).check.map ({ size := · })

def growTimes (f : Size → Option Growth) : (n : Nat) → Size → Option Growth
  | 0, s => growStates 1 s
  | n + 1, s => (f s).bind (Growth.copies f n)

def growBetween (f : Size → Option Growth) (min max : Nat) (s : Size) : Option Growth :=
  (growTimes f min s).bind fun g =>
    (Growth.options f (max - min) { g with size := g.size.addStates 1 }).bind fun h =>
      (h.link h.size).check.map ({ size := · })

/-- A part any number of times. `needy` says that it does not match the empty
text, so that the fork in front of it can be the one behind it. -/
def growAny (f : Size → Option Growth) (needy : Bool) (s : Size) : Option Growth :=
  if needy then
    (f (s.addStates 1)).bind fun g =>
      ((g.link g.size).addBranches 1).check.map ({ size := ·, forked := true })
  else
    (f s).bind fun g =>
      (((g.link g.size).addStates 3).addBranches 4).check.map ({ size := · })

/-- A part at least `min + 1` times, with a fork behind that leads back. -/
def growMany (f : Size → Option Growth) (min : Nat) (s : Size) : Option Growth :=
  (growTimes f (min + 1) s).bind fun g =>
    (((g.link g.size).addStates 1).addBranches 1).check.map ({ size := ·, forked := true })

namespace Expr

mutual

/-- How long a match is at least, if there is any. -/
def minLength? : Expr → Option Nat
  | .empty => some 0
  | .literal cs => some cs.length
  | .cls set _ => if set.ranges.isEmpty then none else some 1
  | .look _ => some 0
  | .repetition min _ _ e => (minLength? e).map (· * min)
  | .capture _ _ e => minLength? e
  | .concat es => minLengthAll? es
  | .alternation es => minLengthAny? es

def minLengthAll? : List Expr → Option Nat
  | [] => some 0
  | e :: es =>
    match minLength? e, minLengthAll? es with
    | some m, some n => some (m + n)
    | _, _ => none

def minLengthAny? : List Expr → Option Nat
  | [] => none
  | [e] => minLength? e
  | e :: es =>
    match minLength? e, minLengthAny? es with
    | some m, some n => some (min m n)
    | _, _ => none

end

def word? : Expr → Option (List Char)
  | .literal cs => some cs
  | _ => none

/-- The bytes of a literal, in the order in which they are read. -/
def wordBytes (backward : Bool) (cs : List Char) : List Nat :=
  let bytes := cs.flatMap fun c => bytesOf c.toNat
  if backward then bytes.reverse else bytes

mutual

def grow (backward : Bool) : Expr → Size → Option Growth
  | .empty, s => growStates 1 s
  | .literal cs, s => growStates (max 1 (wordBytes backward cs).length) s
  | .cls set _, s => (growClass backward s set).check.map ({ size := · })
  | .look _, s => growStates 1 s
  | .repetition min max _ e, s =>
    match min, max with
    | 0, some 1 =>
      (grow backward e (s.addStates 1)).bind fun g =>
        (((g.link g.size).addStates 1).addBranches 2).check.map ({ size := · })
    | 0, none => growAny (grow backward e) ((minLength? e).any (0 < ·)) s
    | n + 1, none => growMany (grow backward e) n s
    | n, some m =>
      if n = m then growTimes (grow backward e) n s else growBetween (grow backward e) n m s
  | .capture _ _ e, s =>
    if backward then grow backward e s
    else (grow backward e (s.addStates 1)).bind (·.andThen (growStates 1))
  | .concat es, s => growAll backward es s
  | .alternation es, s =>
    match es.mapM word? with
    | some words =>
      (WordTree.growAll s (words.map (wordBytes backward))).check.map ({ size := · })
    | none => (growBranches backward 0 es s).map ({ size := · })

def growAll (backward : Bool) : List Expr → Size → Option Growth
  | [], s => growStates 1 s
  | [e], s => grow backward e s
  | e :: es, s =>
    if backward then (growAll backward es s).bind (·.andThen (grow backward e))
    else (grow backward e s).bind (·.andThen (growAll backward es))

/-- With the automata of the branches of a choice, `n` of which are there
already. The fork and the state where the branches end come with the second. -/
def growBranches (backward : Bool) (n : Nat) : List Expr → Size → Option Size
  | [], s => some s
  | e :: es, s =>
    match grow backward e s with
    | some g =>
      let branch := (g.link g.size).addBranches 1
      match (if n = 1 then branch.addStates 2 else branch).check with
      | some s => growBranches backward (n + 1) es s
      | none => none
    | none => none

end

/-- The size of the automaton that reads a text forward: the state where it
starts, the whole match as a capture, and the state where it accepts. -/
def forwardSize? (e : Expr) : Option Size :=
  (growStates 1 {}).bind fun g =>
    (g.andThen (grow false (.capture 0 none e))).bind fun h =>
      (h.andThen (growStates 1)).map (·.size)

def backwardSize? (e : Expr) : Option Size :=
  (growStates 1 {}).bind fun g =>
    (g.andThen (grow true e)).bind fun h => (h.andThen (growStates 1)).map (·.size)

def fits (e : Expr) : Bool := e.forwardSize?.isSome && e.backwardSize?.isSome

end Expr

end Exemplar.Pattern
