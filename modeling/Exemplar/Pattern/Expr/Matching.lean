import Exemplar.Pattern.Expr.OfTerm
import Exemplar.Pattern.Marks

/-!
# Matching a text

An expression leads from positions of a text to positions: from where it starts
to where it can end. `Expr.run` follows all starts at once, so choices and
repetitions need no trial and error. A text is matched if there is a start that
leads to some end.
-/

namespace Exemplar.Pattern

def isWordChar (basic : Bool) (c : Char) : Bool :=
  (if basic then NamedClass.word.set else wordSet).has c

/-- The condition holds between a word character in front, or none, and a word
character behind, or none. -/
def WordLook.holds (l : WordLook) (front behind : Bool) : Bool :=
  match l with
  | .boundary => front != behind
  | .notBoundary => front == behind
  | .start => !front && behind
  | .stop => front && !behind
  | .startHalf => !front
  | .stopHalf => !behind

/-- The condition holds between the characters in front and behind. There is no
position of a line end between a carriage return and a line feed. -/
def Look.holds (l : Look) (front behind : Option Char) : Bool :=
  match l with
  | .start => front.isNone
  | .stop => behind.isNone
  | .startLine => front.isNone || front == some '\n'
  | .stopLine => behind.isNone || behind == some '\n'
  | .startLineCrlf =>
    front.isNone || front == some '\n' || (front == some '\r' && behind != some '\n')
  | .stopLineCrlf =>
    behind.isNone || behind == some '\r' || (behind == some '\n' && front != some '\r')
  | .word l basic => l.holds (front.any (isWordChar basic)) (behind.any (isWordChar basic))

namespace Expr

mutual

/-- From where the expression starts to where it can end. -/
def run (text : Array Char) : Expr → Marks → Marks
  | .empty, ms => ms
  | .literal cs, ms => cs.foldl (fun ms c => Marks.advance (· == c) text ms) ms
  | .cls set _, ms => Marks.advance set.has text ms
  | .look l, ms => Marks.restrict l.holds text ms
  | .repetition min max _ e, ms =>
    let ms := Marks.iterate (run text e) min ms
    Marks.spread (run text e) ((max.getD (min + text.size + 1)) - min) ms ms
  | .capture _ _ e, ms => run text e ms
  | .concat es, ms => runAll text es ms
  | .alternation es, ms => runAny text es ms

def runAll (text : Array Char) : List Expr → Marks → Marks
  | [], ms => ms
  | e :: es, ms => runAll text es (run text e ms)

def runAny (text : Array Char) : List Expr → Marks → Marks
  | [], _ => []
  | e :: es, ms => (run text e ms).union (runAny text es ms)

end

def isMatch (e : Expr) (text : Array Char) : Bool :=
  !(e.run text (.all text)).isEmpty

end Expr

end Exemplar.Pattern
