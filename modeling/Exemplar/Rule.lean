import Exemplar.Json.Basic

/-!
# Matching rules

A rule says how a value of a real document is checked instead of being compared
with the example. Its JSON form is an object whose member `match` names the
check, with the arguments behind it.
-/

namespace Exemplar

inductive NumberKind where
  | integer
  | decimal
  | number
deriving DecidableEq, Repr

def NumberKind.name : NumberKind → String
  | .integer => "integer"
  | .decimal => "decimal"
  | .number => "number"

/-- What part of an instant a text shows. -/
inductive Temporal where
  | date
  | time
  | datetime
deriving DecidableEq, Repr

def Temporal.name : Temporal → String
  | .date => "date"
  | .time => "time"
  | .datetime => "timestamp"

inductive Rule where
  /-- Any value of the type of the example. -/
  | exactType
  /-- A text that matches the pattern as a whole. -/
  | regex (pattern : String)
  | number (kind : NumberKind)
  | format (part : Temporal) (pattern : String)
  | minLength (n : Nat)
  | maxLength (n : Nat)
  | includes (text : String)
  /-- The value of a date expression at the time of the check, written in a date pattern. -/
  | expression (text : String) (pattern : String)
  /-- Every key of an object satisfies all the rules. -/
  | eachKey (rules : List Rule) (example? : Option String)
deriving Repr

namespace Rule

def fields (check : String) (arguments : List (String × Json)) : Json :=
  .obj (("match", .str check) :: arguments)

mutual

def toJson : Rule → Json
  | .exactType => fields "type" []
  | .regex pattern => fields "regex" [("regex", .str pattern)]
  | .number kind => fields kind.name []
  | .format part pattern => fields part.name [("format", .str pattern)]
  | .minLength n => fields "type" [("min", .num (.int n))]
  | .maxLength n => fields "type" [("max", .num (.int n))]
  | .includes text => fields "include" [("value", .str text)]
  | .expression text pattern =>
    fields "expression" [("expression", .str text), ("format", .str pattern)]
  | .eachKey rules none => fields "eachKey" [("rules", .arr (toJsonList rules))]
  | .eachKey rules (some value) =>
    fields "eachKey" [("rules", .arr (toJsonList rules)), ("value", .str value)]

def toJsonList : List Rule → List Json
  | [] => []
  | r :: rules => toJson r :: toJsonList rules

end

theorem toJsonList_eq_map (rules : List Rule) : toJsonList rules = rules.map toJson := by
  induction rules with
  | nil => rfl
  | cons r rules ih => simp [toJsonList, ih]

end Rule

end Exemplar
