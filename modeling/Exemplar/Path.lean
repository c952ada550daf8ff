/-!
# Paths into a document

A path leads from the root of a document to a node, or to every element of an
array at once where it has a wildcard. It is the list of its segments, and the
empty list is the root.

The written form starts with `$`. A key adds a point and the key as it is, an
index and a wildcard attach in brackets to what stands before them. Nothing is
escaped, so two paths can have one written form; the registry of rules is
indexed by written forms and lets such paths share their rules.
-/

namespace Exemplar

inductive Segment where
  | key (name : String)
  | index (i : Nat)
  | wildcard
deriving DecidableEq, Repr

def Segment.render : Segment → String
  | .key name => "." ++ name
  | .index i => "[" ++ toString i ++ "]"
  | .wildcard => "[*]"

/-- The steps from the root. -/
abbrev Path := List Segment

namespace Path

def root : Path := []

def extend (p : Path) (s : Segment) : Path := p ++ [s]

/-- The path without its last step; the root has none. -/
def parent? (p : Path) : Option Path :=
  if p.isEmpty then none else some p.dropLast

def renderSteps : Path → String
  | [] => ""
  | s :: p => s.render ++ renderSteps p

def rootMark : String := "$"

def render (p : Path) : String :=
  rootMark ++ renderSteps p

@[simp] theorem renderSteps_nil : renderSteps [] = "" := rfl

theorem renderSteps_cons (s : Segment) (p : Path) :
    renderSteps (s :: p) = s.render ++ renderSteps p := rfl

theorem renderSteps_append (p q : Path) :
    renderSteps (p ++ q) = renderSteps p ++ renderSteps q := by
  induction p with
  | nil => simp
  | cons s p ih => simp [renderSteps_cons, ih, String.append_assoc]

/-- The form of a joined path is the form of its first part followed by the
steps of the second. -/
theorem render_append (p q : Path) : render (p ++ q) = render p ++ renderSteps q := by
  simp [render, renderSteps_append, String.append_assoc]

theorem extend_append (p : Path) (s : Segment) (q : Path) : p.extend s ++ q = p ++ s :: q :=
  List.append_assoc ..

theorem parent?_extend (p : Path) (s : Segment) : parent? (p.extend s) = some p := by
  simp [parent?, extend]

theorem parent?_eq_none_iff (p : Path) : parent? p = none ↔ p = root := by
  cases p <;> simp [parent?, root]

end Path

end Exemplar
