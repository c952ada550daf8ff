import Exemplar.Builder.Op

/-!
# The names of calls

The calls by the names that they have in refusals. Several names may stand for
one move; what is refused under a name is reported under that name, or under the
name of the call that it is short for.
-/

namespace Exemplar.Op

open Calendar

/-! ## Containers -/

def pushObject (slot : Slot) : Op := .opening "push_object" .object slot

def pushArray (slot : Slot) : Op := .opening "push_array" .array slot

def object (slot : Slot) : Op := .opening "object" .object slot

def array (slot : Slot) : Op := .opening "array" .array slot

def pop : Op := .closing "pop" none

def closeObject : Op := .closing "close_object" (some .object)

def closeArray : Op := .closing "close_array" (some .array)

/-! ## Values with a rule of one's own -/

def given (value : Json) (rule? : Option Rule) : Generator :=
  match rule? with
  | some rule => .matched value rule
  | none => .exact value

def addField (key : String) (value : Json) (rule? : Option Rule) : Op :=
  .put "add_field" (.key key) (given value rule?)

def addElement (value : Json) (rule? : Option Rule) : Op :=
  .put "add_element" .next (given value rule?)

/-! ## Exact values -/

def value (slot : Slot) (value : Json) : Op := .put "value" slot (.exact value)

def stringValue (slot : Slot) (example? : Option String) : Op :=
  .put "string_value" slot (.exact (example?.elim .null .str))

def numberValue (slot : Slot) (n : Number) : Op := .put "number_value" slot (.exact (.num n))

def decimalValue (slot : Slot) (x : Float) : Op := .put "decimal_value" slot (.exact (.ofFloat x))

def booleanValue (slot : Slot) (b : Bool) : Op := .put "boolean_value" slot (.exact (.bool b))

def nullValue (slot : Slot) : Op := .put "null_value" slot (.exact .null)

def datetimeValue (slot : Slot) (pattern : String) (instant? : Option Instant)
    (zone? : Option Int) : Op :=
  .put "datetime_value" slot (.exactMoment pattern instant? zone?)

/-! ## Examples with a rule -/

def stringType (slot : Slot) (example? : Option String) : Op :=
  .put "string_type" slot (.string example?)

def integerType (slot : Slot) (example? : Option Int) : Op :=
  .put "integer_type" slot (.integer example?)

def decimalType (slot : Slot) (example? : Option Float) : Op :=
  .put "decimal_type" slot (.decimal example?)

def numberType (slot : Slot) (example? : Option Number) : Op :=
  .put "number_type" slot (.number example?)

def booleanType (slot : Slot) (example? : Option Bool) : Op :=
  .put "boolean_type" slot (.boolean example?)

def idAt (slot : Slot) (example? : Option Int) : Op := .put "id" slot (.id example?)

def hexValue (slot : Slot) (example? : Option String) : Op := .put "hex_value" slot (.hex example?)

def uuid (slot : Slot) (example? : Option String) : Op := .put "uuid" slot (.uuid example?)

def ipAddress (slot : Slot) (example? : Option String) : Op :=
  .put "ip_address" slot (.ipAddress example?)

def stringMatcher (slot : Slot) (pattern : String) (example? : Option String) : Op :=
  .put "string_matcher" slot (.matching pattern example?)

def includesStr (slot : Slot) (text : String) : Op := .put "includes_str" slot (.including text)

/-! ## Moments -/

def date (slot : Slot) (pattern : String) (instant? : Option Instant) (zone? : Option Int) : Op :=
  .put "date" slot (.temporal .date pattern instant? zone?)

def time (slot : Slot) (pattern : String) (instant? : Option Instant) (zone? : Option Int) : Op :=
  .put "time" slot (.temporal .time pattern instant? zone?)

def datetime (slot : Slot) (pattern : String) (instant? : Option Instant)
    (zone? : Option Int) : Op :=
  .put "datetime" slot (.temporal .datetime pattern instant? zone?)

def dateExpression (slot : Slot) (text pattern : String) : Op :=
  .put "date_expression" slot (.expression text pattern)

def timeExpression (slot : Slot) (text pattern : String) : Op :=
  .put "time_expression" slot (.expression text pattern)

def datetimeExpression (slot : Slot) (text pattern : String) : Op :=
  .put "datetime_expression" slot (.expression text pattern)

/-! ## Values with a place of their own -/

def datePattern : String := "yyyy-MM-dd"

def timePattern : String := "HH:mm:ss"

def datetimePattern : String := "yyyy-MM-dd'T'HH:mm:ss"

def id : Op := .putNamed "id" "id" (.id none)

def timestamp : Op :=
  .putNamed "datetime" "timestamp" (.temporal .datetime datetimePattern none none)

def localDate : Op := .putNamed "date" "date" (.temporal .date datePattern none none)

def localTime : Op := .putNamed "time" "time" (.temporal .time timePattern none none)

/-! ## Arrays described by their elements -/

def eachLike (slot : Slot) (element : Element) : Op := .arrayLike slot .each element

def minArrayLike (slot : Slot) (min : Nat) (element : Element) : Op :=
  .arrayLike slot (.atLeast min) element

def maxArrayLike (slot : Slot) (max : Nat) (element : Element) : Op :=
  .arrayLike slot (.atMost max) element

def minMaxArrayLike (slot : Slot) (min max : Nat) (element : Element) : Op :=
  .arrayLike slot (.between min max) element

end Exemplar.Op
