import Exemplar.Calendar.DatePattern
import Exemplar.Json.Basic
import Exemplar.Pattern.Error

/-!
# Refusals

Every reason for which a call is refused, with its wording. The reasons fall
into three families: the call does not fit the document as it stands, a date
pattern or date expression cannot be understood, or something else that was
handed in is no good.

There is one way for a call to end that is not a refusal: a date expression can
ask for the day before the first one or after the last one of the calendar.
-/

namespace Exemplar

inductive GraftFault where
  /-- The container to put something into is not there any more. -/
  | containerReplaced
  | root
  | enclosesOpen
  | parentMissing
  | pastEnd
  | wildcard
  | wrongContainer
deriving DecidableEq, Repr

def GraftFault.message : GraftFault → String
  | .containerReplaced => "open container was replaced"
  | .root => "the root cannot be replaced"
  | .enclosesOpen => "target encloses an open container"
  | .parentMissing => "parent does not exist"
  | .pastEnd => "index past the end of the array"
  | .wildcard => "a wildcard is not a position"
  | .wrongContainer => "parent is not a container of the right kind"

inductive ExpressionFault where
  | grammar
  | amount
  /-- An adjustment has no such unit, or leaves the calendar. -/
  | adjustment (text : String)
deriving DecidableEq, Repr

def ExpressionFault.message : ExpressionFault → String
  | .grammar => "expected \x60<base> [+|- <n> <unit>]*\x60"
  | .amount => "amount out of range"
  | .adjustment text => "cannot apply \x60" ++ text ++ "\x60"

inductive BuildError where
  | popRoot
  | containerMismatch (call : String) (expected found : Kind) (path : Path)
  | graftTarget (path : Path) (fault : GraftFault)
  | unclosed (count : Nat) (path : Path)
  | poisoned
  | datePattern (text : String) (fault : Calendar.DatePatternError)
  | expression (text : String) (fault : ExpressionFault)
  | pattern (text : String) (fault : PatternError)
  | exampleMismatch (regex text : String)
  | cardinality (min max : Nat)
  /-- Sample values cannot be read, with the place in the text's structure. -/
  | samples (place reason : String)
deriving DecidableEq, Repr

inductive ErrorFamily where
  | structural
  | format
  | input
deriving DecidableEq, Repr

namespace BuildError

def family : BuildError → ErrorFamily
  | .popRoot | .containerMismatch .. | .graftTarget .. | .unclosed .. | .poisoned => .structural
  | .datePattern .. | .expression .. => .format
  | .pattern .. | .exampleMismatch .. | .cardinality .. | .samples .. => .input

def tick (text : String) : String := "\x60" ++ text ++ "\x60"

def message : BuildError → String
  | .popRoot => "cannot close past the root container"
  | .containerMismatch call expected found path =>
    tick call ++ " needs an " ++ expected.name ++ " container but the current one is an " ++
      found.name ++ " (at " ++ tick path.render ++ ")"
  | .graftTarget path fault => "cannot graft at " ++ tick path.render ++ ": " ++ fault.message
  | .unclosed count path =>
    toString count ++ " container(s) still open at " ++ tick path.render
  | .poisoned => "builder already failed; start a new one"
  | .datePattern text fault => "invalid date/time pattern " ++ tick text ++ ": " ++ fault.message
  | .expression text fault => "invalid date/time expression " ++ tick text ++ ": " ++ fault.message
  | .pattern text fault => "invalid regex " ++ tick text ++ ": " ++ fault.message
  | .exampleMismatch regex text => "example " ++ tick text ++ " does not match " ++ tick regex
  | .cardinality min max =>
    "minimum length " ++ toString min ++ " exceeds maximum length " ++ toString max
  | .samples place reason => "at JSON path " ++ place ++ " → " ++ reason

end BuildError

inductive Failure where
  | refused (error : BuildError)
  /-- The calendar was left where there is nothing to fall back on. -/
  | outOfCalendar
deriving DecidableEq, Repr

end Exemplar
