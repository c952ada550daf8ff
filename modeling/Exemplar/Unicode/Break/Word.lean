import Exemplar.Unicode.Break.Grapheme
import Exemplar.Unicode.Script

/-!
# Where words end

The classes of characters that decide where a word ends. Letters of scripts that
are written without blanks between the words are in no class, because a
dictionary decides for them.
-/

namespace Exemplar.Unicode.WordBreak

def scripts (names : List String) : CodePoints := .union (names.filterMap Script.find?)

def extending : CodePoints := .union [GraphemeBreak.extending, Category.among ["mc"]]

/-- The one mark in front of what it belongs to that is used with letters. -/
def abbreviationMark : CodePoints := [(0x70f, 0x70f)]

def numberMarks : CodePoints := (Property.among ["pcm"]).diff abbreviationMark

/-- Formats, but for the ones that join or separate. -/
def formats : CodePoints :=
  (Category.among ["cf"]).diff (.union [[(0x200b, 0x200d)], extending, Property.among ["pcm"]])

def katakana : CodePoints :=
  .union [scripts ["katakana"], .ofText "3031-3035 309b-309c 30a0 30fc ff70"]

def hebrewLetters : CodePoints := (scripts ["hebrew"]).inter (Category.among ["lo"])

def letterSigns : CodePoints :=
  .ofText "b8 2c2-2c5 2d2-2d7 2de-2df 2e5-2eb 2ed 2ef-2ff 55a-55c 55e 58a 5f3 70f a708-a716
    a720-a721 a789-a78a ab5b"

def unspacedScripts : List String := [
  "thai", "lao", "khmer", "myanmar", "taile", "newtailue", "taitham", "taiviet", "ahom"]

def letters : CodePoints :=
  (CodePoints.union [Property.among ["alphabetic"], letterSigns]).diff (.union
    [Property.among ["ideographic"], katakana, scripts unspacedScripts, scripts ["hiragana"],
      extending, hebrewLetters])

def find? (name : String) : Option CodePoints :=
  match name with
  | "cr" => some [(0xd, 0xd)]
  | "lf" => some [(0xa, 0xa)]
  | "nl" | "newline" => some [(0xb, 0xc), (0x85, 0x85), (0x2028, 0x2029)]
  | "extend" => some extending
  | "zwj" => some [(0x200d, 0x200d)]
  | "fo" | "format" => some formats
  | "ri" | "regionalindicator" => Property.find? "ri"
  | "ka" | "katakana" => some katakana
  | "hl" | "hebrewletter" => some hebrewLetters
  | "le" | "aletter" => some letters
  | "sq" | "singlequote" => some [(0x27, 0x27)]
  | "dq" | "doublequote" => some [(0x22, 0x22)]
  | "mb" | "midnumlet" => some (.ofText "2e 2018-2019 2024 fe52 ff07 ff0e")
  | "ml" | "midletter" => some (.ofText "3a b7 387 55f 5f4 2027 fe13 fe55 ff1a")
  | "mn" | "midnum" =>
    some (.ofText "2c 3b 37e 589 60c-60d 66c 7f8 2044 fe10 fe14 fe50 fe54 ff0c ff1b")
  | "nu" | "numeric" => some (.union [Category.among ["nd"], [(0x66b, 0x66b)], numberMarks])
  | "ex" | "extendnumlet" => some (.union [Category.among ["pc"], [(0x202f, 0x202f)]])
  | "wsegspace" =>
    some ((Category.among ["zs"]).diff [(0xa0, 0xa0), (0x2007, 0x2007), (0x202f, 0x202f)])
  | _ => none

end Exemplar.Unicode.WordBreak
