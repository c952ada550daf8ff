import Exemplar.Calendar.Field

/-!
# Date patterns

A date pattern is a text in which runs of a letter stand for fields of a moment
and everything else for itself. Letters between quotes stand for themselves
too, and a quote is written twice, be it between quotes or not.

A pattern is read in two steps. `Mark.ofText` takes the quotes off and tells
the letters that name a field from characters that stand for themselves. Since
a quote that is written twice is a quote on either side, the state of the
reading is a single flag, and a lone quote switches it. `Piece.ofMarks` then
puts equal letters that follow each other into one run.
-/

namespace Exemplar.Calendar

inductive DatePatternError where
  | unsupported (letter : Char) (length : Nat)
  | unterminatedQuote
  | unusable
  | notFormatted
deriving DecidableEq, Repr

def DatePatternError.message : DatePatternError → String
  | .unsupported letter length =>
    "unsupported field \x60" ++ String.ofList (List.replicate length letter) ++ "\x60"
  | .unterminatedQuote => "unterminated quote"
  | .unusable => "not a usable format"
  | .notFormatted => "formatting failed"

inductive Mark where
  /-- A letter that names a field. -/
  | letter (c : Char)
  /-- A character that stands for itself. -/
  | text (c : Char)
deriving DecidableEq, Repr

namespace Mark

def ofChar (quoted : Bool) (c : Char) : Mark :=
  if !quoted && c.isAlpha then .letter c else .text c

/-- The characters of a pattern that is read between quotes or not, and whether
it ends between quotes. -/
def ofText (quoted : Bool) : List Char → List Mark × Bool
  | [] => ([], quoted)
  | ['\''] => ([], !quoted)
  | c :: d :: cs =>
    if c = '\'' then
      if d = '\'' then
        let (marks, atEnd) := ofText quoted cs
        (.text '\'' :: marks, atEnd)
      else ofText (!quoted) (d :: cs)
    else
      let (marks, atEnd) := ofText quoted (d :: cs)
      (ofChar quoted c :: marks, atEnd)
  | [c] => ([ofChar quoted c], quoted)

end Mark

inductive Piece where
  | run (letter : Char) (length : Nat)
  | text (c : Char)
deriving DecidableEq, Repr

namespace Piece

def prepend : Mark → List Piece → List Piece
  | .text c, ps => .text c :: ps
  | .letter c, .run d n :: ps => if c = d then .run d (n + 1) :: ps else .run c 1 :: .run d n :: ps
  | .letter c, ps => .run c 1 :: ps

def ofMarks (marks : List Mark) : List Piece := marks.foldr prepend []

end Piece

/-- A part of a pattern whose letters have been understood: a field, or a character
that stands for itself. -/
inductive Symbol where
  | field (f : Field)
  | text (c : Char)
deriving DecidableEq, Repr

namespace Symbol

def ofPiece : Piece → Except DatePatternError Symbol
  | .text c => .ok (.text c)
  | .run letter length =>
    match Field.ofRun? letter length with
    | some f => .ok (.field f)
    | none => .error (.unsupported letter length)

/-- What some parts of a pattern stand for. The first one that stands for
nothing is reported. -/
def ofPieces : List Piece → Except DatePatternError (List Symbol)
  | [] => .ok []
  | p :: ps =>
    match ofPiece p with
    | .error e => .error e
    | .ok e => (ofPieces ps).map (e :: ·)

def render (m : Moment) : Symbol → List Char
  | .field f => f.render m
  | .text c => [c]

end Symbol

structure DatePattern where
  source : String
  symbols : List Symbol

namespace DatePattern

/-- Read what a text stands for as a pattern. A field that there is not is
reported even if a quote is left open behind it. -/
def readSymbols (text : List Char) : Except DatePatternError (List Symbol) :=
  let (marks, quoted) := Mark.ofText false text
  match Symbol.ofPieces (Piece.ofMarks marks) with
  | .error e => .error e
  | .ok symbols => if quoted then .error .unterminatedQuote else .ok symbols

def parse (text : String) : Except DatePatternError DatePattern :=
  (readSymbols text.toList).map (⟨text, ·⟩)

def format (p : DatePattern) (m : Moment) : String :=
  String.ofList (p.symbols.flatMap (·.render m))

end DatePattern

end Exemplar.Calendar
