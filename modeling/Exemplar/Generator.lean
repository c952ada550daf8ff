import Exemplar.Calendar.Expression
import Exemplar.Config
import Exemplar.Generated
import Exemplar.Pattern.Whole

/-!
# Generators of values

A generator describes one value of a document. There are two families. An exact
generator gives a value that is expected as it is and has no rule. The others
give an example together with a rule, and the example satisfies the rule; it is
handed in, or a sample value, or made up from a pattern.

A date expression that cannot be evaluated is not refused: it is kept for the
time of the check, and the example shows the moment it would have started from.
-/

namespace Exemplar

open Calendar

inductive Generator where
  | exact (value : Json)
  | exactMoment (pattern : String) (instant? : Option Instant) (zone? : Option Int)
  | matched (value : Json) (rule : Rule)
  | string (example? : Option String)
  | integer (example? : Option Int)
  | decimal (example? : Option Float)
  | number (example? : Option Number)
  | boolean (example? : Option Bool)
  | id (example? : Option Int)
  | hex (example? : Option String)
  | uuid (example? : Option String)
  | ipAddress (example? : Option String)
  | matching (pattern : String) (example? : Option String)
  | including (text : String)
  | temporal (part : Temporal) (pattern : String) (instant? : Option Instant) (zone? : Option Int)
  | expression (text : String) (pattern : String)

namespace Generator

def hexPattern : String := "[0-9a-fA-F]+"

def uuidPattern : String :=
  "[0-9a-fA-F]\x7b8\x7d(-[0-9a-fA-F]\x7b4\x7d)\x7b3\x7d-[0-9a-fA-F]\x7b12\x7d"

def ipPattern : String := "(\\d\x7b1,3\x7d\\.)+\\d\x7b1,3\x7d"

def orRefuse {α : Type} (r : Except BuildError α) : Except Failure α := r.mapError .refused

def datePattern (pattern : String) : Except Failure DatePattern :=
  (DatePattern.parse pattern).mapError fun fault => .refused (.datePattern pattern fault)

/-- A text that is checked with a pattern, which it has to satisfy itself. -/
def checked (pattern text : String) : Except Failure Generated :=
  (orRefuse (Pattern.Whole.check pattern text)).map fun _ => .matched (.str text) (.regex pattern)

/-- A text made up from the pattern that it is checked with. -/
def synthesized (pattern : String) : Except Failure Generated :=
  (orRefuse (Pattern.Whole.synthesize pattern)).map fun text =>
    .matched (.str text) (.regex pattern)

/-- The moment of an expression, or the clock where the expression is refused. -/
def expressionMoment (text : String) (clock : Moment) : Except Failure Moment :=
  match evaluate text clock with
  | .ok m => .ok m
  | .error (.refused _) => .ok clock
  | .error .outOfCalendar => .error .outOfCalendar

def make (config : Config) : Generator → Except Failure Generated
  | .exact value => .ok (.exact value)
  | .exactMoment pattern instant? zone? =>
    (datePattern pattern).map fun p => .exact (.str (p.format (config.moment instant? zone?)))
  | .matched value rule => .ok (.matched value rule)
  | .string example? =>
    .ok (.matched (.str (example?.getD config.samples.string)) .exactType)
  | .integer example? =>
    .ok (.matched (.num (.int (example?.getD config.samples.integer))) (.number .integer))
  | .decimal example? =>
    .ok (.matched (.ofFloat (example?.getD config.samples.decimal)) (.number .decimal))
  | .number example? =>
    .ok (.matched (.num (example?.getD (.int config.samples.integer))) (.number .number))
  | .boolean example? =>
    .ok (.matched (.bool (example?.getD config.samples.boolean)) .exactType)
  | .id example? => .ok (.matched (.num (.int (example?.getD config.samples.id))) .exactType)
  | .hex example? => checked hexPattern (example?.getD config.samples.hex)
  | .uuid example? => checked uuidPattern (example?.getD config.samples.uuid)
  | .ipAddress example? => checked ipPattern (example?.getD config.samples.ipAddress)
  | .matching pattern (some text) => checked pattern text
  | .matching pattern none => synthesized pattern
  | .including text => .ok (.matched (.str text) (.includes text))
  | .temporal part pattern instant? zone? =>
    (datePattern pattern).map fun p =>
      .matched (.str (p.format (config.moment instant? zone?))) (.format part pattern)
  | .expression text pattern =>
    match datePattern pattern with
    | .error f => .error f
    | .ok p =>
      (expressionMoment text config.clock).map fun m =>
        .matched (.str (p.format m)) (.expression text pattern)

end Generator

end Exemplar
