import Exemplar.Pattern.Term.Class
import Exemplar.Pattern.Term.Group
import Exemplar.Pattern.Term.Repetition

/-!
# Reading a pattern

A pattern is read with a stack of the groups that are open. One step takes a
character that counts, and what belongs to it, off the front of the text and
updates the `Progress`; the text is read when nothing that counts is left, and
then no group may be open. What has been read of the groups further out takes
no part in a step other than the closing of a group, so a pattern is read
inside of a group just as it is read on its own.

A pattern may not be nested too deeply. This is tested once it has been read,
so every other fault is reported first.
-/

namespace Exemplar.Pattern

/-- What has been read of a group: the branches that are finished and the parts
of the one that is being read, in both cases the last one first. -/
structure Level where
  branches : List Term := []
  items : List Term := []

namespace Level

def push (l : Level) (t : Term) : Level :=
  { l with items := t :: l.items }

def branch (l : Level) : Level :=
  { branches := .ofItems l.items.reverse :: l.branches, items := [] }

def term (l : Level) : Term :=
  .ofBranches l.branch.branches.reverse

/-- The last part and the ones in front of it, if the last one can be repeated. -/
def last? (l : Level) : Option (Term × List Term) :=
  match l.items with
  | [] | .empty :: _ | .flags _ :: _ => none
  | t :: items => some (t, items)

end Level

inductive GroupKind where
  | plain (changes : FlagChanges)
  | capture (index : Nat) (name : Option String)

def GroupKind.wrap : GroupKind → Term → Term
  | .plain changes, t => .group changes t
  | .capture index name, t => .capture index name t

/-- A group that is open, with what has been read around it. -/
structure OpenGroup where
  outer : Level
  kind : GroupKind
  /-- The text around the group is verbose. -/
  verbose : Bool

structure Progress where
  level : Level := {}
  /-- The groups that are open, the innermost one first. -/
  groups : List OpenGroup := []
  verbose : Bool := false
  captures : Nat := 0
  names : List String := []

namespace Progress

def push (p : Progress) (t : Term) : Progress :=
  { p with level := p.level.push t }

def openGroup (p : Progress) (kind : GroupKind) (verbose : Bool) : Progress :=
  { p with
    level := {}
    groups := ⟨p.level, kind, p.verbose⟩ :: p.groups
    verbose }

/-- Go on behind the beginning of a group, or behind flags. -/
def start (p : Progress) : GroupStart → Progress
  | .flags changes =>
    { p.push (.flags changes) with verbose := (changes.state? .verbose).getD p.verbose }
  | .plain changes =>
    p.openGroup (.plain changes) ((changes.state? .verbose).getD p.verbose)
  | .capture name =>
    { p.openGroup (.capture (p.captures + 1) name) p.verbose with
      captures := p.captures + 1
      names := name.toList ++ p.names }

def close (p : Progress) : Except PatternError Progress :=
  match p.groups with
  | [] => .error .groupUnopened
  | g :: groups =>
    .ok { p with
      level := g.outer.push (g.kind.wrap p.level.term)
      groups
      verbose := g.verbose }

def readRepetition (p : Progress) (count : Reading PatternError Count) :
    Reading PatternError Progress :=
  match p.level.last? with
  | none => .error .repetitionMissing
  | some (t, items) => count.convert fun count =>
    { p with level.items := .repetition count.min count.max count.greedy t :: items }

def finish (p : Progress) : Except PatternError Term :=
  if p.groups.isEmpty then .ok p.level.term else .error .groupUnclosed

def readOperator (min : Nat) (max : Option Nat) (cs : List Char) : Reading PatternError Count :=
  let (greedy, rest) := readLazy cs
  .ok (⟨min, max, greedy⟩, rest)

def step (p : Progress) (c : Char) (cs : List Char) : Reading PatternError Progress :=
  if c = '(' then (readGroupStart p.verbose p.names cs).convert p.start
  else if c = ')' then
    match p.close with
    | .error e => .error e
    | .ok p => .ok (p, cs)
  else if c = '|' then .ok ({ p with level := p.level.branch }, cs)
  else if c = '[' then
    (readClass p.verbose cs).convert fun (negated, set) => p.push (.bracketed negated set)
  else if c = '?' then p.readRepetition (readOperator 0 (some 1) cs)
  else if c = '*' then p.readRepetition (readOperator 0 none cs)
  else if c = '+' then p.readRepetition (readOperator 1 none cs)
  else if c = '{' then p.readRepetition (readCount p.verbose cs)
  else if c = '\\' then (readEscape p.verbose cs).convert fun primitive => p.push primitive.toTerm
  else if c = '.' then .ok (p.push .dot, cs)
  else if c = '^' then .ok (p.push (.assertion .startLine), cs)
  else if c = '$' then .ok (p.push (.assertion .endLine), cs)
  else .ok (p.push (.literal ⟨c, false⟩), cs)

open Reading

theorem readRepetition_within {p : Progress} {count : Reading PatternError Count} {cs : List Char}
    (h : count.Within cs) : (p.readRepetition count).Within cs := by
  rw [readRepetition]
  split
  · exact .error _
  · exact h.convert _

theorem readOperator_within (min : Nat) (max : Option Nat) (cs : List Char) :
    (readOperator min max cs).Within cs :=
  .ok _ (readLazy_suffix cs)

theorem step_within (p : Progress) (c : Char) (cs : List Char) : (p.step c cs).Within cs := by
  have rest (q : Progress) : Within (.ok (q, cs) : Reading PatternError _) cs :=
    .ok q (List.suffix_refl cs)
  have operator (min : Nat) (max : Option Nat) :=
    p.readRepetition_within (readOperator_within min max cs)
  have closing : Within (match p.close with
      | .error e => .error e
      | .ok p => .ok (p, cs)) cs := by
    split
    · exact .error _
    · exact rest _
  exact .ite ((readGroupStart_within _ _ _).convert _) <| .ite closing <| .ite (rest _) <|
    .ite ((readClass_within _ _).convert _) <| .ite (operator _ _) <| .ite (operator _ _) <|
    .ite (operator _ _) <| .ite (readRepetition_within (readCount_within _ _)) <|
    .ite ((readEscape_within _ _).convert _) <| .ite (rest _) <| .ite (rest _) <|
    .ite (rest _) (rest _)

def run (p : Progress) (cs : List Char) : Except PatternError Term :=
  match _ : skip p.verbose cs with
  | [] => p.finish
  | c :: rest =>
    match _ : p.step c rest with
    | .error e => .error e
    | .ok (q, rest) => run q rest
termination_by cs.length
decreasing_by
  rename_i hc hs
  have h₁ := (p.step_within _ _ _ _ hs).length_le
  have h₂ := length_skip_le p.verbose cs
  rw [hc, List.length_cons] at h₂
  omega

end Progress

def nestLimit : Nat := 250

def Term.parse (pattern : List Char) : Except PatternError Term :=
  match Progress.run {} pattern with
  | .error e => .error e
  | .ok t => if t.depth ≤ nestLimit then .ok t else .error (.nestLimitExceeded nestLimit)

end Exemplar.Pattern
