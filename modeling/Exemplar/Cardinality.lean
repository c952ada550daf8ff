import Exemplar.Error
import Exemplar.Rule

/-!
# Cardinalities

How many elements an array may have, and how many its example has. The two are
independent of each other.
-/

namespace Exemplar

/-- Bounds for the length of an array, and the length of its example if it is
not to be the configured one. -/
structure Cardinality where
  min? : Option Nat := none
  max? : Option Nat := none
  examples? : Option Nat := none
deriving DecidableEq, Repr

namespace Cardinality

def each : Cardinality := {}

def atLeast (min : Nat) : Cardinality := { min? := some min }

def atMost (max : Nat) : Cardinality := { max? := some max }

def between (min max : Nat) : Cardinality := { min? := some min, max? := some max }

/-- Refuse bounds that no length satisfies. -/
def check (c : Cardinality) : Except BuildError Unit :=
  match c.min?, c.max? with
  | some min, some max => if max < min then .error (.cardinality min max) else .ok ()
  | _, _ => .ok ()

/-- The rules of the array itself. Without bounds it only has to be an array. -/
def rules (c : Cardinality) : List Rule :=
  match c.min?, c.max? with
  | none, none => [.exactType]
  | min?, max? => (min?.map Rule.minLength).toList ++ (max?.map Rule.maxLength).toList

end Cardinality

end Exemplar
