import Exemplar.Rule

/-!
# The registry of rules

A registry keeps a list of rules for each path that has any, indexed by the
written form of the path and in the order in which the forms first came up.
Lists only grow, at their end. Two paths with one written form share one list.
-/

namespace Exemplar

/-- Rules by the written form of their path. -/
structure Registry where
  entries : Entries (List Rule) := []

namespace Registry

def size (r : Registry) : Nat := r.entries.length

def paths (r : Registry) : List String := r.entries.keys

def get? (r : Registry) (form : String) : Option (List Rule) := r.entries.get? form

def at? (r : Registry) (p : Path) : Option (List Rule) := r.get? p.render

def push (r : Registry) (form : String) (rule : Rule) : Registry :=
  ⟨r.entries.alter form fun rules? => rules?.getD [] ++ [rule]⟩

def add (r : Registry) (p : Path) (rule : Rule) : Registry := r.push p.render rule

/-- Add rules at a path, in order. No rules leave no trace of the path. -/
def extendAt (r : Registry) (p : Path) (rules : List Rule) : Registry :=
  rules.foldl (fun r rule => r.push p.render rule) r

/-- The written form below `base` of a node that has the form `form` on its own:
the mark of the root gives way to `base`. -/
def reroot (base form : String) : String :=
  if form.toList.head? = some '$' then base ++ String.ofList form.toList.tail else base ++ form

/-- Add all the rules of `other`, in order, with its root moved to `p`. -/
def mergeAt (r : Registry) (p : Path) (other : Registry) : Registry :=
  other.entries.foldl
    (fun r entry => entry.2.foldl (fun r rule => r.push (reroot p.render entry.1) rule) r) r

/-- The JSON form: for each path its rules, all of which have to hold. -/
def toJson (r : Registry) : Json :=
  .obj (r.entries.map fun entry =>
    (entry.1, .obj [("combine", .str "AND"), ("matchers", .arr (entry.2.map Rule.toJson))]))

theorem get?_push (r : Registry) (form : String) (rule : Rule) (other : String) :
    (r.push form rule).get? other =
      if form = other then some ((r.get? form).getD [] ++ [rule]) else r.get? other :=
  Entries.get?_alter ..

theorem paths_push (r : Registry) (form : String) (rule : Rule) :
    (r.push form rule).paths =
      if form ∈ r.paths then r.paths else r.paths ++ [form] :=
  Entries.keys_alter ..

/-- The form of a node below `p` is its own form with the root moved to `p`. -/
theorem reroot_render (p q : Path) : reroot p.render q.render = (p ++ q).render := by
  have h : q.render.toList = '$' :: q.renderSteps.toList := by
    simp [Path.render, Path.rootMark]
  rw [reroot, h, Path.render_append]
  simp

end Registry

end Exemplar
