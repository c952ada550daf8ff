import Exemplar.Unicode.Query

/-!
# Patterns as they are written

A `Term` is the tree of a pattern, close to its text: what is nested, repeated
and alternated, with the classes and flags as they are spelled. What a term
means depends on the flags in force where it stands, and is worked out
elsewhere.
-/

namespace Exemplar.Pattern

inductive Flag where
  | ignoreCase
  | multiLine
  | dotMatchesNewline
  | swapGreed
  | unicode
  | crlf
  | verbose
deriving DecidableEq, Repr

abbrev FlagChanges := List (Flag × Bool)

def FlagChanges.state? (changes : FlagChanges) (flag : Flag) : Option Bool :=
  (changes.find? (·.1 = flag)).map (·.2)

/-- A character. It is a `byte` if it is spelled by two hexadecimal digits. -/
structure Literal where
  char : Char
  byte : Bool := false
deriving DecidableEq, Repr

inductive Assertion where
  | startLine
  | endLine
  | startText
  | endText
  | wordBoundary
  | notWordBoundary
  | wordStart
  | wordEnd
  | wordStartHalf
  | wordEndHalf
deriving DecidableEq, Repr

inductive LetterClass where
  | digit
  | space
  | word
deriving DecidableEq, Repr

inductive NamedClass where
  | alnum
  | alpha
  | ascii
  | blank
  | cntrl
  | digit
  | graph
  | lower
  | print
  | punct
  | space
  | upper
  | word
  | xdigit
deriving DecidableEq, Repr

def NamedClass.ofName? (name : String) : Option NamedClass :=
  match name with
  | "alnum" => some .alnum
  | "alpha" => some .alpha
  | "ascii" => some .ascii
  | "blank" => some .blank
  | "cntrl" => some .cntrl
  | "digit" => some .digit
  | "graph" => some .graph
  | "lower" => some .lower
  | "print" => some .print
  | "punct" => some .punct
  | "space" => some .space
  | "upper" => some .upper
  | "word" => some .word
  | "xdigit" => some .xdigit
  | _ => none

inductive SetOperation where
  | intersection
  | difference
  | symmetricDifference
deriving DecidableEq, Repr

mutual

inductive ClassItem where
  | empty
  | literal (l : Literal)
  | range (first last : Literal)
  | letter (kind : LetterClass) (negated : Bool)
  | named (kind : NamedClass) (negated : Bool)
  | property (query : Unicode.Query) (negated : Bool)
  | bracketed (negated : Bool) (set : ClassSet)
  | union (items : List ClassItem)

inductive ClassSet where
  | item (i : ClassItem)
  | operation (kind : SetOperation) (lhs rhs : ClassSet)

end

inductive Term where
  | empty
  | flags (changes : FlagChanges)
  | literal (l : Literal)
  | dot
  | assertion (a : Assertion)
  | letter (kind : LetterClass) (negated : Bool)
  | property (query : Unicode.Query) (negated : Bool)
  | bracketed (negated : Bool) (set : ClassSet)
  | repetition (min : Nat) (max : Option Nat) (greedy : Bool) (sub : Term)
  | capture (index : Nat) (name : Option String) (sub : Term)
  | group (changes : FlagChanges) (sub : Term)
  | concat (items : List Term)
  | alternation (branches : List Term)
deriving Inhabited

def ClassItem.ofItems : List ClassItem → ClassItem
  | [] => .empty
  | [i] => i
  | items => .union items

namespace Term

def ofItems : List Term → Term
  | [] => .empty
  | [t] => t
  | items => .concat items

def ofBranches : List Term → Term
  | [] => .empty
  | [t] => t
  | branches => .alternation branches

end Term

/-! ## Depth of nesting

Classes in brackets, parts of classes that are made of parts, set operations,
repetitions, groups, concatenations and alternations each add a level. -/

mutual

def ClassItem.depth : ClassItem → Nat
  | .bracketed _ set => set.depth + 1
  | .union items => ClassItem.depthList items + 1
  | _ => 0

def ClassItem.depthList : List ClassItem → Nat
  | [] => 0
  | i :: items => max i.depth (ClassItem.depthList items)

def ClassSet.depth : ClassSet → Nat
  | .item i => i.depth
  | .operation _ lhs rhs => max lhs.depth rhs.depth + 1

end

mutual

def Term.depth : Term → Nat
  | .bracketed _ set => set.depth + 1
  | .repetition _ _ _ sub => sub.depth + 1
  | .capture _ _ sub => sub.depth + 1
  | .group _ sub => sub.depth + 1
  | .concat items => Term.depthList items + 1
  | .alternation branches => Term.depthList branches + 1
  | _ => 0

def Term.depthList : List Term → Nat
  | [] => 0
  | t :: terms => max t.depth (Term.depthList terms)

end

end Exemplar.Pattern
