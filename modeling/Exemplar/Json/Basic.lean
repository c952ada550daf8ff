import Exemplar.Entries
import Exemplar.Path

/-!
# Documents

A document is a tree of objects, arrays and scalars. The fields of an object
keep the order in which they were first set. A number is either an integer or
a floating-point number, and the two are written differently: `1` and `1.0`
are different values.

A node is addressed by its path. `at?` reads a node and `set?` replaces one;
both fail where the path leaves the document, and a wildcard addresses no
single node.
-/

namespace Exemplar

inductive Number where
  | int (n : Int)
  | float (x : Float)
deriving Inhabited

inductive Json where
  | null
  | bool (b : Bool)
  | num (n : Number)
  | str (s : String)
  | arr (items : List Json)
  | obj (fields : List (String × Json))
deriving Inhabited

inductive Kind where
  | object
  | array
deriving DecidableEq, Repr, Inhabited

def Kind.name : Kind → String
  | .object => "object"
  | .array => "array"

/-- Where a value goes in a container: under a key of an object, or at the next
position of an array. -/
inductive Slot where
  | key (name : String)
  | next
deriving DecidableEq, Repr

def Slot.kind : Slot → Kind
  | .key _ => .object
  | .next => .array

namespace Json

/-- A floating-point number as a document has it: what is not finite has no
written form and is null. -/
def ofFloat (x : Float) : Json :=
  if x.isFinite then .num (.float x) else .null

def empty : Kind → Json
  | .object => .obj []
  | .array => .arr []

def kind? : Json → Option Kind
  | .obj _ => some .object
  | .arr _ => some .array
  | _ => none

def child? : Json → Segment → Option Json
  | .obj fields, .key name => Entries.get? fields name
  | .arr items, .index i => items[i]?
  | _, _ => none

/-- Replace the node one step further down, which has to be there. -/
def setChild : Json → Segment → Json → Json
  | .obj fields, .key name, v => .obj (Entries.put fields name v)
  | .arr items, .index i, v => .arr (items.set i v)
  | j, _, _ => j

def at? : Json → Path → Option Json
  | j, [] => some j
  | j, s :: p => (j.child? s).bind (at? · p)

/-- Replace the node at a path, which has to be there. -/
def set? : Json → Path → Json → Option Json
  | _, [], v => some v
  | j, s :: p, v => (j.child? s).bind fun c => (set? c p v).map (j.setChild s)

/-- Put `v` into a slot of a container: the container with it, and the step
that leads to it. A key that is already used keeps its position. -/
def insert? : Json → Slot → Json → Option (Json × Segment)
  | .obj fields, .key name, v => some (.obj (Entries.put fields name v), .key name)
  | .arr items, .next, v => some (.arr (items ++ [v]), .index items.length)
  | _, _, _ => none

@[simp] theorem at?_nil (j : Json) : j.at? [] = some j := rfl

theorem at?_cons (j : Json) (s : Segment) (p : Path) :
    j.at? (s :: p) = (j.child? s).bind (at? · p) := rfl

theorem at?_append (j : Json) (p q : Path) : j.at? (p ++ q) = (j.at? p).bind (at? · q) := by
  induction p generalizing j with
  | nil => rfl
  | cons s p ih =>
    rw [List.cons_append, at?_cons, at?_cons]
    cases j.child? s with
    | none => rfl
    | some c => exact ih c

theorem child?_wildcard (j : Json) : j.child? .wildcard = none := by
  cases j <;> rfl

theorem kind?_empty (k : Kind) : (empty k).kind? = some k := by
  cases k <;> rfl

/-- A slot is filled exactly in the containers that have it. -/
theorem insert?_isSome_iff (j : Json) (slot : Slot) (v : Json) :
    (j.insert? slot v).isSome ↔ j.kind? = some slot.kind := by
  cases j <;> cases slot <;> simp [insert?, kind?, Slot.kind]

theorem child?_setChild (j : Json) (s : Segment) (v : Json) (h : (j.child? s).isSome) :
    (j.setChild s v).child? s = some v := by
  cases j <;> cases s <;> simp_all [child?, setChild, Entries.get?_put]

theorem set?_isSome_iff (j : Json) (p : Path) (v : Json) :
    (j.set? p v).isSome ↔ (j.at? p).isSome := by
  induction p generalizing j with
  | nil => simp [set?]
  | cons s p ih =>
    rw [set?, at?_cons]
    cases j.child? s with
    | none => simp
    | some c => simpa using ih c

theorem at?_set? {j j' : Json} {p : Path} {v : Json} (h : j.set? p v = some j') :
    j'.at? p = some v := by
  induction p generalizing j j' with
  | nil => simp [set?] at h; simp [h]
  | cons s p ih =>
    rw [set?] at h
    cases hc : j.child? s with
    | none => simp [hc] at h
    | some c =>
      rw [hc, Option.bind_some, Option.map_eq_some_iff] at h
      obtain ⟨c', hc', rfl⟩ := h
      rw [at?_cons, child?_setChild j s c' (by simp [hc]), Option.bind_some]
      exact ih hc'

end Json

end Exemplar
