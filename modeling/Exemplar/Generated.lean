import Exemplar.Rule

/-!
# Generated values

A value for a document, with the rule by which a real value in its place is
checked. Without a rule the real value has to be the same.
-/

namespace Exemplar

/-- A value and the rule that goes with it, if there is one. -/
structure Generated where
  value : Json
  rule? : Option Rule

namespace Generated

def exact (value : Json) : Generated := ⟨value, none⟩

def matched (value : Json) (rule : Rule) : Generated := ⟨value, some rule⟩

end Generated

end Exemplar
