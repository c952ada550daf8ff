import Exemplar.Calendar.DatePattern

/-!
# Patterns translated into directives

A formatter of moments knows directives, which are letters behind a percent sign, and not the
letters of patterns. So a pattern is translated: its runs are put into a buffer as directives,
and between them its other characters, with percent signs written twice. There is no directive
for milliseconds and for the hours from 1 to 24 and from 0 to 11. Such a number is written
without the formatter, so the buffer is closed in front of it.

The formatter may object to a text, since not all that stands behind a percent sign is a
directive. Therefore a translated pattern is checked, and even then formatting may fail.
-/

namespace Exemplar.Calendar

/-! ## Directives -/

namespace Directive

def field? (letter : Char) : Option Field :=
  match letter with
  | 'y' => some (.number .yearOfCentury 2)
  | 'Y' => some .year
  | 'g' => some (.number .weekYearOfCentury 2)
  | 'G' => some .weekYear
  | 'm' => some (.number .month 2)
  | 'b' => some (.monthName false)
  | 'B' => some (.monthName true)
  | 'd' => some (.number .day 2)
  | 'j' => some (.number .dayOfYear 3)
  | 'a' => some (.weekdayName false)
  | 'A' => some (.weekdayName true)
  | 'u' => some (.number .weekday 1)
  | 'p' => some .halfDay
  | 'H' => some (.number .hour 2)
  | 'I' => some (.number .halfDayClockHour 2)
  | 'M' => some (.number .minute 2)
  | 'S' => some (.number .second 2)
  | 'Z' => some (.zone .exact)
  | 'z' => some (.zone .basic)
  | _ => none

/-- A number without zeros in front. -/
def unpadded? : Field → Option Field
  | .number quantity _ => some (.number quantity 1)
  | _ => none

/-- The parts of a text with directives. There is `none` for what should be a directive and is
not one that patterns are translated into. -/
def read : List Char → List (Option Symbol)
  | [] => []
  | ['%'] => [none]
  | '%' :: '%' :: cs => some (.text '%') :: read cs
  | '%' :: '-' :: c :: cs => ((field? c).bind unpadded?).map .field :: read cs
  | '%' :: ':' :: ':' :: ':' :: 'z' :: cs => some (.field (.zone .hours)) :: read cs
  | '%' :: ':' :: 'z' :: cs => some (.field (.zone .extended)) :: read cs
  | '%' :: c :: cs => (field? c).map .field :: read cs
  | c :: cs => some (.text c) :: read cs

def render? (m : Moment) : List (Option Symbol) → Option (List Char)
  | [] => some []
  | none :: _ => none
  | some s :: items => (render? m items).map (s.render m ++ ·)

end Directive

/-! ## Translation -/

/-- A part of a translated pattern: a text with directives, or a number that has none. -/
inductive Chunk where
  | directives (text : List Char)
  | number (quantity : Quantity) (width : Nat)
deriving DecidableEq, Repr

namespace Chunk

def ofRun? (letter : Char) (length : Nat) : Option Chunk :=
  match letter with
  | 'S' => some (.number .millisecond length)
  | 'k' => some (.number .clockHour length)
  | 'K' => some (.number .halfDayHour length)
  | 'y' => some (.directives (if length = 2 then ['%', 'y'] else ['%', 'Y']))
  | 'Y' => some (.directives (if length = 2 then ['%', 'g'] else ['%', 'G']))
  | 'M' | 'L' =>
    match length with
    | 1 => some (.directives ['%', '-', 'm'])
    | 2 => some (.directives ['%', 'm'])
    | 3 => some (.directives ['%', 'b'])
    | _ => some (.directives ['%', 'B'])
  | 'd' => some (.directives (if length = 1 then ['%', '-', 'd'] else ['%', 'd']))
  | 'D' => some (.directives (if length = 1 then ['%', '-', 'j'] else ['%', 'j']))
  | 'E' => some (.directives (if length ≤ 3 then ['%', 'a'] else ['%', 'A']))
  | 'u' => some (.directives ['%', 'u'])
  | 'a' => some (.directives ['%', 'p'])
  | 'H' => some (.directives (if length = 1 then ['%', '-', 'H'] else ['%', 'H']))
  | 'h' => some (.directives (if length = 1 then ['%', '-', 'I'] else ['%', 'I']))
  | 'm' => some (.directives (if length = 1 then ['%', '-', 'M'] else ['%', 'M']))
  | 's' => some (.directives (if length = 1 then ['%', '-', 'S'] else ['%', 'S']))
  | 'z' => some (.directives ['%', 'Z'])
  | 'Z' => some (.directives ['%', 'z'])
  | 'X' =>
    match length with
    | 1 => some (.directives ['%', ':', ':', ':', 'z'])
    | 2 => some (.directives ['%', 'z'])
    | 3 => some (.directives ['%', ':', 'z'])
    | _ => none
  | _ => none

def items : Chunk → List (Option Symbol)
  | .directives text => Directive.read text
  | .number quantity width => [some (.field (.number quantity width))]

def isUnusable : Chunk → Bool
  | .directives text => (Directive.read text).any Option.isNone
  | .number .. => false

end Chunk

def escaped (c : Char) : List Char := if c = '%' then ['%', '%'] else [c]

/-- What has been translated so far: closed parts, and a text that may go on. -/
structure Draft where
  chunks : List Chunk
  buffer : List Char

namespace Draft

def push (d : Draft) (text : List Char) : Draft := { d with buffer := d.buffer ++ text }

/-- All parts, with the buffer as the last one unless it is empty. -/
def flush (d : Draft) : List Chunk :=
  if d.buffer.isEmpty then d.chunks else d.chunks ++ [.directives d.buffer]

def put (d : Draft) : Chunk → Draft
  | .directives text => d.push text
  | chunk => ⟨d.flush ++ [chunk], []⟩

end Draft

/-- The buffer behind a literal that has been opened, and the rest of the pattern, if it is
closed again. -/
def readLiteral? (buffer : List Char) : List Char → Option (List Char × List Char)
  | [] => none
  | '\'' :: '\'' :: cs => readLiteral? (buffer ++ ['\'']) cs
  | '\'' :: cs => some (buffer, cs)
  | c :: cs => readLiteral? (buffer ++ escaped c) cs

theorem length_of_readLiteral? {buffer buffer' cs rest : List Char}
    (h : readLiteral? buffer cs = some (buffer', rest)) : rest.length ≤ cs.length := by
  fun_induction readLiteral? buffer cs with
  | case1 => cases h
  | case2 buffer cs ih => exact Nat.le_add_right_of_le (Nat.le_add_right_of_le (ih h))
  | case3 buffer cs =>
    cases h
    exact Nat.le_add_right ..
  | case4 buffer c cs _ _ ih => exact Nat.le_add_right_of_le (ih h)

/-- Translate a pattern, behind what has been translated already. -/
def translate (d : Draft) : List Char → Except DatePatternError (List Chunk)
  | [] => .ok d.flush
  | '\'' :: '\'' :: cs => translate (d.push ['\'']) cs
  | '\'' :: cs =>
    match _ : readLiteral? d.buffer cs with
    | none => .error .unterminatedQuote
    | some (buffer, rest) => translate { d with buffer } rest
  | c :: cs =>
    if c.isAlpha then
      let length := (cs.takeWhile (· = c)).length + 1
      match Chunk.ofRun? c length with
      | none => .error (.unsupported c length)
      | some chunk => translate (d.put chunk) (cs.dropWhile (· = c))
    else translate (d.push (escaped c)) cs
termination_by cs => cs.length
decreasing_by
  · exact Nat.lt_add_of_pos_right Nat.two_pos
  · rename_i h
    exact Nat.lt_succ_of_le (length_of_readLiteral? h)
  · exact Nat.lt_succ_of_le (List.dropWhile_sublist _).length_le
  · simp

structure Translation where
  source : String
  chunks : List Chunk

namespace Translation

/-- Translate a pattern, unless the formatter objects to the result. -/
def parse (text : String) : Except DatePatternError Translation :=
  match translate ⟨[], []⟩ text.toList with
  | .error e => .error e
  | .ok chunks => if chunks.any Chunk.isUnusable then .error .unusable else .ok ⟨text, chunks⟩

def format (t : Translation) (m : Moment) : Except DatePatternError String :=
  match Directive.render? m (t.chunks.flatMap Chunk.items) with
  | none => .error .notFormatted
  | some cs => .ok (String.ofList cs)

end Translation

end Exemplar.Calendar
