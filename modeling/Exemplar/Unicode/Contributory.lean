import Exemplar.Unicode.Category
import Exemplar.Unicode.Property

/-!
# Contributory properties

Some properties follow from the general category, but for a few characters that
are listed. Such a list is a property of its own. It is what is left of the
whole property without the categories that have it.
-/

namespace Exemplar.Unicode.Contributory

/-- The lists, by their names, each with the property that it contributes to and
the categories that have this property anyway. -/
def table : List (List String × String × List String) := [
  (["oalpha", "otheralphabetic"], "alphabetic", ["l", "nl"]),
  (["ogrext", "othergraphemeextend"], "graphemeextend", ["mn", "me"]),
  (["olower", "otherlowercase"], "lowercase", ["ll"]),
  (["omath", "othermath"], "math", ["sm"]),
  (["oupper", "otheruppercase"], "uppercase", ["lu"])]

def find? (name : String) : Option CodePoints :=
  match table.find? (·.1.contains name) with
  | some (_, property, categories) =>
    (Property.find? property).map fun whole =>
      whole.diff (Category.among categories)
  | none => none

end Exemplar.Unicode.Contributory
