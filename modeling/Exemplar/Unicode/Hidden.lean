import Exemplar.Unicode.Category
import Exemplar.Unicode.Property
import Exemplar.Unicode.Youngest

/-!
# Characters without a form of their own

Nothing is seen of a control, a format, a blank or a code point without a
character, and a mark is seen on the character in front of it only.
-/

namespace Exemplar.Unicode

/-- The two marks of halfwidth text take a place of their own. -/
def halfwidthMarks : CodePoints := [(0xff9e, 0xff9f)]

def hidden : CodePoints :=
  let unseen := CodePoints.union
    [Category.among ["c", "z"], Property.among ["graphemeextend", "defaultignorablecodepoint"]]
  unseen.diff (.union [Youngest.visible, halfwidthMarks])

end Exemplar.Unicode
