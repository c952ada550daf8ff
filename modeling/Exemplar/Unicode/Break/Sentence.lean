import Exemplar.Unicode.Break.Word

/-!
# Where sentences end

The classes of characters that decide where a sentence ends.
-/

namespace Exemplar.Unicode.SentenceBreak

def extending : CodePoints :=
  .union [Property.among ["graphemeextend"], Category.among ["mc"], [(0x200d, 0x200d)]]

/-- Small letters, but for the ones that are used like capital letters. -/
def lower : CodePoints :=
  (Property.among ["lowercase"]).diff
    (.union [Property.among ["graphemeextend"], [(0x10d0, 0x10fa), (0x10fd, 0x10ff)]])

/-- Capital letters, but for the ones that do not begin a sentence. -/
def upper : CodePoints :=
  (CodePoints.union [Category.among ["lt"], Property.among ["uppercase"]]).diff
    [(0x1c90, 0x1cba), (0x1cbd, 0x1cbf)]

def otherLetters : CodePoints :=
  (CodePoints.union [Property.among ["alphabetic"], [(0x5f3, 0x5f3)],
    WordBreak.abbreviationMark]).diff (.union [lower, upper, extending])

def fullStops : CodePoints := .ofText "2e 2024 fe52 ff0e"

def terminals : CodePoints := (Property.among ["sentenceterminal"]).diff fullStops

def closing : CodePoints :=
  (CodePoints.union [Category.among ["ps", "pe", "pi", "pf"], .ofText "22 27 275b-2760 1f676-1f678
    2e00-2e01 2e06-2e08 2e0b"]).diff (.union [fullStops, terminals])

def separators : CodePoints := [(0x85, 0x85), (0x2028, 0x2029)]

def find? (name : String) : Option CodePoints :=
  match name with
  | "cr" => some [(0xd, 0xd)]
  | "lf" => some [(0xa, 0xa)]
  | "ex" | "extend" => some extending
  | "se" | "sep" => some separators
  | "fo" | "format" => some ((CodePoints.union [WordBreak.formats, [(0x200b, 0x200b)]]))
  | "sp" => some (blanks.diff (.union [separators, [(0xa, 0xa), (0xd, 0xd)]]))
  | "lo" | "lower" => some lower
  | "up" | "upper" => some upper
  | "le" | "oletter" => some otherLetters
  | "nu" | "numeric" =>
    some (.union [Category.among ["nd"], [(0x66b, 0x66c)], WordBreak.numberMarks])
  | "at" | "aterm" => some fullStops
  | "sc" | "scontinue" =>
    some (.ofText "2c-2d 3a-3b 37e 55d 60c-60d 7f8 1802 1808 2013-2014 3001 fe10-fe11 fe13-fe14
      fe31-fe32 fe50-fe51 fe54-fe55 fe58 fe63 ff0c-ff0d ff1a-ff1b ff64")
  | "st" | "sterm" => some terminals
  | "cl" | "close" => some closing
  | _ => none

end Exemplar.Unicode.SentenceBreak
