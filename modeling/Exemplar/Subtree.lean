import Exemplar.Generated
import Exemplar.Registry

/-!
# Subtrees

A subtree is a finished document with its rules. It can be put into other
documents, any number of times; it does not change when that is done.
-/

namespace Exemplar

/-- A finished document and its rules. -/
structure Subtree where
  document : Json
  registry : Registry

namespace Subtree

def ofGenerated (g : Generated) : Subtree :=
  ⟨g.value, match g.rule? with
    | some rule => ({} : Registry).add Path.root rule
    | none => {}⟩

end Subtree

end Exemplar
