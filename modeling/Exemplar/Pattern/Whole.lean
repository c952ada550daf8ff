import Exemplar.Error
import Exemplar.Pattern.Automaton.Expression
import Exemplar.Pattern.Expr.Matching
import Exemplar.Pattern.Expr.Specimen
import Exemplar.Pattern.Term.Reader

/-!
# Patterns for whole texts

A pattern in a rule describes a text from its first character to its last. It
is put into a group between the two ends of the text, and that is what texts
are matched with. The pattern has to be well-formed on its own before it is put
there, so it cannot end the group by itself; and the automata of the whole have
to be of a reasonable size.
-/

namespace Exemplar.Pattern

def Expr.ofPattern (pattern : List Char) : Except PatternError Expr :=
  match Term.parse pattern with
  | .error e => .error e
  | .ok t => (t.toExpr {}).map (·.1)

/-- A pattern between the ends of the text. -/
def anchor (pattern : List Char) : List Char :=
  '^' :: '(' :: '?' :: ':' :: pattern ++ [')', '$']

structure Whole where
  source : String
  expr : Expr

namespace Whole

def parse (pattern : String) : Except BuildError Whole :=
  match Expr.ofPattern pattern.toList with
  | .error e => .error (.pattern pattern e)
  | .ok _ =>
    match Expr.ofPattern (anchor pattern.toList) with
    | .error e => .error (.pattern pattern e)
    | .ok e =>
      if e.fits then .ok ⟨.ofList (anchor pattern.toList), e⟩
      else .error (.pattern pattern (.tooLarge Automaton.Size.limit))

def matchesText (w : Whole) (text : String) : Bool := w.expr.isMatch text.toList.toArray

def check (pattern text : String) : Except BuildError Unit :=
  match parse pattern with
  | .error e => .error e
  | .ok w => if w.matchesText text then .ok () else .error (.exampleMismatch pattern text)

/-- A text that a pattern describes: its specimen, if that is one. The specimen
of a pattern that is too large is not looked at. -/
def synthesize (pattern : String) : Except BuildError String :=
  match Expr.ofPattern pattern.toList, parse pattern with
  | .error e, _ => .error (.pattern pattern e)
  | _, .error e => .error e
  | .ok e, .ok w =>
    let text : String := .ofList e.specimen
    if w.matchesText text then .ok text else .error (.exampleMismatch pattern text)

end Whole

end Exemplar.Pattern
