import Exemplar.Pattern.Error
import Exemplar.Pattern.Expr.Basic
import Exemplar.Pattern.Term.Basic

/-!
# From terms to expressions

What a term means under the flags that are in force where it stands. Flags that
are set inside of a group hold for what follows them in the group, in later
branches too, and end with it; so the flags are handed from part to part.

Without the `unicode` flag classes are made of basic characters, and what could
match a part of a character is refused.
-/

namespace Exemplar.Pattern

structure Flags where
  ignoreCase : Bool := false
  multiLine : Bool := false
  dotMatchesNewline : Bool := false
  swapGreed : Bool := false
  unicode : Bool := true
  crlf : Bool := false
deriving DecidableEq, Repr

def Flags.set (f : Flags) : Flag × Bool → Flags
  | (.ignoreCase, b) => { f with ignoreCase := b }
  | (.multiLine, b) => { f with multiLine := b }
  | (.dotMatchesNewline, b) => { f with dotMatchesNewline := b }
  | (.swapGreed, b) => { f with swapGreed := b }
  | (.unicode, b) => { f with unicode := b }
  | (.crlf, b) => { f with crlf := b }
  | (.verbose, _) => f

def Flags.setAll (f : Flags) (changes : FlagChanges) : Flags :=
  changes.foldl Flags.set f

def NamedClass.set : NamedClass → CharSet
  | .alnum => .ofRanges [.between '0' '9', .between 'A' 'Z', .between 'a' 'z']
  | .alpha => .ofRanges [.between 'A' 'Z', .between 'a' 'z']
  | .ascii => .range '\x00' '\x7f'
  | .blank => .ofRanges [.single '\t', .single ' ']
  | .cntrl => .ofRanges [.between '\x00' '\x1f', .single '\x7f']
  | .digit => .range '0' '9'
  | .graph => .range '!' '~'
  | .lower => .range 'a' 'z'
  | .print => .range ' ' '~'
  | .punct => .ofRanges [.between '!' '/', .between ':' '@', .between '[' '\x60', .between '{' '~']
  | .space => .ofRanges [.between '\t' '\r', .single ' ']
  | .upper => .range 'A' 'Z'
  | .word => .ofRanges [.between '0' '9', .between 'A' 'Z', .single '_', .between 'a' 'z']
  | .xdigit => .ofRanges [.between '0' '9', .between 'A' 'F', .between 'a' 'f']

def digitSet : CharSet := .ofCodePoints Unicode.decimalDigits

def spaceSet : CharSet := .ofCodePoints Unicode.blanks

/-- The characters of words: letters, marks, decimal digits, connecting
punctuation and what controls joining. -/
def wordSet : CharSet :=
  .ofCodePoints (.union
    [Unicode.Property.among ["alphabetic", "joincontrol"],
      Unicode.Category.among ["m", "nd", "pc"]])

def LetterClass.set : LetterClass → CharSet
  | .digit => digitSet
  | .space => spaceSet
  | .word => wordSet

def LetterClass.basicSet : LetterClass → CharSet
  | .digit => NamedClass.digit.set
  | .space => NamedClass.space.set
  | .word => NamedClass.word.set

namespace Flags

variable (f : Flags)

def fold (s : CharSet) : CharSet :=
  if f.ignoreCase then (if f.unicode then s.foldCase else s.foldBasicCase) else s

/-- The members, or what is not a member. A negated class of basic characters
would match parts of characters. -/
def negate (negated : Bool) (s : CharSet) : Except PatternError CharSet :=
  if !negated then .ok s
  else if f.unicode then .ok s.compl
  else .error .invalidUtf8

/-- The characters of a class with a letter, which has both cases as it is. -/
def letterSet (kind : LetterClass) (negated : Bool) : Except PatternError CharSet :=
  f.negate negated (if f.unicode then kind.set else kind.basicSet)

def namedSet (kind : NamedClass) (negated : Bool) : Except PatternError CharSet :=
  f.negate negated (f.fold kind.set)

def propertySet (query : Unicode.Query) (negated : Bool) : Except PatternError CharSet :=
  if !f.unicode then .error .unicodeNotAllowed
  else match query.find with
    | .error .property => .error .propertyNotFound
    | .error .value => .error .propertyValueNotFound
    | .ok s => f.negate negated (f.fold s)

def classChar (l : Literal) : Except PatternError Char :=
  if f.unicode || l.char.toNat < 0x80 then .ok l.char
  else if l.byte then .error .invalidUtf8
  else .error .unicodeNotAllowed

def rangeSet (first last : Literal) : Except PatternError CharSet :=
  match f.classChar first, f.classChar last with
  | .error e, _ => .error e
  | _, .error e => .error e
  | .ok a, .ok b => .ok (.range a b)

def operate (kind : SetOperation) (s t : CharSet) : CharSet :=
  match kind with
  | .intersection => (f.fold s).inter (f.fold t)
  | .difference => (f.fold s).diff (f.fold t)
  | .symmetricDifference => (f.fold s).symmDiff (f.fold t)

mutual

def itemSet (f : Flags) : ClassItem → Except PatternError CharSet
  | .empty => .ok .empty
  | .literal l => (f.classChar l).map .single
  | .range first last => f.rangeSet first last
  | .letter kind negated => f.letterSet kind negated
  | .named kind negated => f.namedSet kind negated
  | .property query negated => f.propertySet query negated
  | .bracketed negated set =>
    match classSet f set with
    | .error e => .error e
    | .ok s => f.negate negated (f.fold s)
  | .union items => itemsSet f items

def itemsSet (f : Flags) : List ClassItem → Except PatternError CharSet
  | [] => .ok .empty
  | i :: items =>
    match itemSet f i with
    | .error e => .error e
    | .ok s =>
      match itemsSet f items with
      | .error e => .error e
      | .ok t => .ok (s.union t)

def classSet (f : Flags) : ClassSet → Except PatternError CharSet
  | .item i => itemSet f i
  | .operation kind lhs rhs =>
    match classSet f lhs with
    | .error e => .error e
    | .ok s =>
      match classSet f rhs with
      | .error e => .error e
      | .ok t => .ok (f.operate kind s t)

end

def literalExpr (l : Literal) : Except PatternError Expr :=
  let c := l.char
  if f.unicode then
    .ok (if f.ignoreCase && CharSet.hasCase c then .ofSet (CharSet.single c).foldCase false
      else .literal [c])
  else if l.byte && 0x80 ≤ c.toNat then .error .invalidUtf8
  else
    .ok (if f.ignoreCase && c.isAlpha then .ofSet (CharSet.single c).foldBasicCase true
      else .literal [c])

/-- Any character, but for the ends of lines. -/
def dotExpr : Except PatternError Expr :=
  if !f.unicode then .error .invalidUtf8
  else if f.dotMatchesNewline then .ok (.ofSet CharSet.empty.compl false)
  else if f.crlf then .ok (.ofSet (CharSet.ofRanges [.single '\n', .single '\r']).compl false)
  else .ok (.ofSet (CharSet.single '\n').compl false)

def assertionLook (a : Assertion) : Look :=
  match a with
  | .startText => .start
  | .endText => .stop
  | .startLine => if !f.multiLine then .start else if f.crlf then .startLineCrlf else .startLine
  | .endLine => if !f.multiLine then .stop else if f.crlf then .stopLineCrlf else .stopLine
  | .wordBoundary => .word .boundary !f.unicode
  | .notWordBoundary => .word .notBoundary !f.unicode
  | .wordStart => .word .start !f.unicode
  | .wordEnd => .word .stop !f.unicode
  | .wordStartHalf => .word .startHalf !f.unicode
  | .wordEndHalf => .word .stopHalf !f.unicode

def setExpr (s : Except PatternError CharSet) : Except PatternError Expr :=
  s.map (.ofSet · !f.unicode)

end Flags

mutual

/-- The meaning of a term, and the flags that are in force behind it. -/
def Term.toExpr (f : Flags) : Term → Except PatternError (Expr × Flags)
  | .empty => .ok (.empty, f)
  | .flags changes => .ok (.empty, f.setAll changes)
  | .literal l => (f.literalExpr l).map (·, f)
  | .dot => f.dotExpr.map (·, f)
  | .assertion a => .ok (.look (f.assertionLook a), f)
  | .letter kind negated => (f.setExpr (f.letterSet kind negated)).map (·, f)
  | .property query negated => (f.setExpr (f.propertySet query negated)).map (·, f)
  | .bracketed negated set =>
    match f.classSet set with
    | .error e => .error e
    | .ok s => (f.setExpr (f.negate negated (f.fold s))).map (·, f)
  | .repetition min max greedy sub =>
    match toExpr f sub with
    | .error e => .error e
    | .ok (e, g) => .ok (.replicate min max (greedy != g.swapGreed) e, g)
  | .capture index name sub =>
    match toExpr f sub with
    | .error e => .error e
    | .ok (e, _) => .ok (.capture index name e, f)
  | .group changes sub =>
    match toExpr (f.setAll changes) sub with
    | .error e => .error e
    | .ok (e, _) => .ok (e, f)
  | .concat items =>
    match toExprs f items with
    | .error e => .error e
    | .ok (es, g) => .ok (.sequence es, g)
  | .alternation branches =>
    match toExprs f branches with
    | .error e => .error e
    | .ok (es, g) => .ok (.oneOf es, g)

def Term.toExprs (f : Flags) : List Term → Except PatternError (List Expr × Flags)
  | [] => .ok ([], f)
  | t :: terms =>
    match toExpr f t with
    | .error e => .error e
    | .ok (e, g) =>
      match toExprs g terms with
      | .error e => .error e
      | .ok (es, h) => .ok (e :: es, h)

end

end Exemplar.Pattern
