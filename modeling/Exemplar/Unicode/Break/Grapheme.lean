import Exemplar.Unicode.Category
import Exemplar.Unicode.Property

/-!
# Where graphemes end

A grapheme is what is seen as one character. Where one ends and another begins
hangs on the classes of the two characters at this place. Each character is in
one class at most, so what comes under an earlier class is taken out of a later
one.
-/

namespace Exemplar.Unicode.GraphemeBreak

def extending : CodePoints := Property.among ["graphemeextend", "emojimodifier"]

/-- Characters that come in front of what they belong to. -/
def preceding : CodePoints :=
  (CodePoints.union
    [Property.among ["pcm"], .ofText "d4e 111c2-111c3 113d1 1193f 11941 11a3a 11a84-11a89 11d46
      11f02"])

/-- Spacing marks that begin a grapheme nevertheless. -/
def separateMarks : CodePoints :=
  .ofText "102b-102c 1038 1062-1064 1067-106d 1083 1087-108c 108f 109a-109c 1a61 1a63-1a64 aa7b
    aa7d 11720-11721"

def controls : CodePoints :=
  let unassigned := (Category.among ["cn"]).inter (Property.among ["defaultignorablecodepoint"])
  let others := [extending, preceding, [(0xa, 0xa), (0xd, 0xd), (0x200c, 0x200d)]]
  (CodePoints.union [Category.among ["zl", "zp", "cc", "cf"], unassigned]).diff (.union others)

/-- The number of syllables that share their first two parts. -/
def syllableBlock : Nat := 28

def openSyllables : CodePoints :=
  (List.range 399).map fun i => (0xac00 + syllableBlock * i, 0xac00 + syllableBlock * i)

def find? (name : String) : Option CodePoints :=
  match name with
  | "cr" => some [(0xd, 0xd)]
  | "lf" => some [(0xa, 0xa)]
  | "cn" | "control" => some controls
  | "ex" | "extend" => some extending
  | "zwj" => some [(0x200d, 0x200d)]
  | "ri" | "regionalindicator" => Property.find? "ri"
  | "pp" | "prepend" => some preceding
  | "sm" | "spacingmark" =>
    let marks := CodePoints.union [Category.among ["mc"], [(0xe33, 0xe33), (0xeb3, 0xeb3)]]
    some (marks.diff (.union [extending, separateMarks]))
  | "l" => some [(0x1100, 0x115f), (0xa960, 0xa97c)]
  | "v" => some [(0x1160, 0x11a7), (0xd7b0, 0xd7c6), (0x16d63, 0x16d63), (0x16d67, 0x16d6a)]
  | "t" => some [(0x11a8, 0x11ff), (0xd7cb, 0xd7fb)]
  | "lv" => some openSyllables
  | "lvt" => some (CodePoints.diff [(0xac00, 0xd7a3)] openSyllables)
  | _ => none

end Exemplar.Unicode.GraphemeBreak
