import Exemplar.Json.Basic

/-!
# Sample values

What a typed value has as its example when none is given: one value for each
kind of field, and the number of elements that an array described by its
elements has.
-/

namespace Exemplar

/-- Examples for values that are given none. -/
structure Samples where
  string : String := "string"
  integer : Int := 100
  decimal : Float := 100.25
  boolean : Bool := true
  id : Int := 1234567890
  hex : String := "3f2a9c1e0b"
  uuid : String := "e2490de5-5bd3-43d5-b7c4-526e33f71304"
  ipAddress : String := "127.0.0.1"
  examples : Nat := 1
deriving BEq, Inhabited

namespace Samples

inductive Field where
  | string
  | integer
  | decimal
  | boolean
  | id
  | hex
  | uuid
  | ipAddress
  | examples
deriving DecidableEq, Repr

namespace Field

def all : List Field :=
  [.string, .integer, .decimal, .boolean, .id, .hex, .uuid, .ipAddress, .examples]

def name : Field → String
  | .string => "string"
  | .integer => "integer"
  | .decimal => "decimal"
  | .boolean => "boolean"
  | .id => "id"
  | .hex => "hex"
  | .uuid => "uuid"
  | .ipAddress => "ip_address"
  | .examples => "examples"

def ofName? (name : String) : Option Field := all.find? (·.name = name)

theorem ofName?_name (f : Field) : ofName? f.name = some f := by
  cases f <;> decide

end Field

inductive Value where
  | string (s : String)
  | integer (n : Int)
  | decimal (x : Float)
  | boolean (b : Bool)
  | id (n : Int)
  | hex (s : String)
  | uuid (s : String)
  | ipAddress (s : String)
  | examples (n : Nat)

def set (s : Samples) : Value → Samples
  | .string t => { s with string := t }
  | .integer n => { s with integer := n }
  | .decimal x => { s with decimal := x }
  | .boolean b => { s with boolean := b }
  | .id n => { s with id := n }
  | .hex t => { s with hex := t }
  | .uuid t => { s with uuid := t }
  | .ipAddress t => { s with ipAddress := t }
  | .examples n => { s with examples := n }

def get (s : Samples) : Field → Json
  | .string => .str s.string
  | .integer => .num (.int s.integer)
  | .decimal => .ofFloat s.decimal
  | .boolean => .bool s.boolean
  | .id => .num (.int s.id)
  | .hex => .str s.hex
  | .uuid => .str s.uuid
  | .ipAddress => .str s.ipAddress
  | .examples => .num (.int s.examples)

def toJson (s : Samples) : Json :=
  .obj (Field.all.map fun f => (f.name, s.get f))

end Samples

end Exemplar
