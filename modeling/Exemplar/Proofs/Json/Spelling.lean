import Exemplar.Json.Reading.Skip
import Exemplar.Proofs.Blanks

/-!
# Documents as they are spelled

A document has many texts: blanks may stand between any two of its parts, a character of a
string may be written as itself or as an escape, and a number may have an exponent. A
`SpelledValue` is a value with all these choices made. It says no more than the grammar of
documents does, so an escape may be half of a character, a number may have any size, and an
object may name a key more than once.

Of a text whose characters matter these are `SpelledChar`s, where the two units of a character
stand together.

What is behind a value is always a blank, a comma or the end of a container: the text is
`Delimited` there. This is where a number ends.
-/

namespace Exemplar.Json

abbrev Blanks := Exemplar.Blanks isBlank

/-- A hexadecimal digit, in either case. -/
structure HexDigit where
  value : Fin 16
  capital : Bool

namespace HexDigit

def char (d : HexDigit) : Char :=
  if d.capital then (Nat.digitChar d.value).toUpper else Nat.digitChar d.value

theorem hexValue?_char (d : HexDigit) : hexValue? d.char = some d.value.val := by
  have hall : ∀ v : Fin 16, ∀ b : Bool, hexValue? (char ⟨v, b⟩) = some v.val := by decide
  exact hall d.value d.capital

end HexDigit

/-- A unit of sixteen bits in four digits. -/
structure CodeUnit where
  a : HexDigit
  b : HexDigit
  c : HexDigit
  d : HexDigit

namespace CodeUnit

def value (u : CodeUnit) : Nat :=
  16 * (16 * (16 * u.a.value + u.b.value) + u.c.value) + u.d.value

def text (u : CodeUnit) : List Char := ['\\', 'u', u.a.char, u.b.char, u.c.char, u.d.char]

end CodeUnit

inductive Escape where
  | quote
  | backslash
  | slash
  | backspace
  | formFeed
  | newline
  | carriageReturn
  | tab
deriving DecidableEq, Repr

namespace Escape

def letter : Escape → Char
  | .quote => '"'
  | .backslash => '\\'
  | .slash => '/'
  | .backspace => 'b'
  | .formFeed => 'f'
  | .newline => 'n'
  | .carriageReturn => 'r'
  | .tab => 't'

def char : Escape → Char
  | .quote => '"'
  | .backslash => '\\'
  | .slash => '/'
  | .backspace => '\x08'
  | .formFeed => '\x0c'
  | .newline => '\n'
  | .carriageReturn => '\r'
  | .tab => '\t'

theorem letter_ne_u (e : Escape) : e.letter ≠ 'u' := by
  cases e <;> decide

theorem ofEscape?_letter (e : Escape) : ofEscape? e.letter = some e.char := by
  cases e <;> rfl

end Escape

/-- The character may stand in a string as itself. -/
def IsPlain (c : Char) : Prop := c ≠ '"' ∧ c ≠ '\\' ∧ 0x20 ≤ c.toNat

instance (c : Char) : Decidable (IsPlain c) := inferInstanceAs (Decidable (_ ∧ _ ∧ _))

inductive Piece where
  | plain (c : Char) (h : IsPlain c)
  | escape (e : Escape)
  | unit (u : CodeUnit)

def Piece.text : Piece → List Char
  | .plain c _ => [c]
  | .escape e => ['\\', e.letter]
  | .unit u => u.text

def piecesText (pieces : List Piece) : List Char := pieces.flatMap Piece.text ++ ['"']

/-- A character of a string as it is spelled. -/
inductive SpelledChar where
  | plain (c : Char) (h : IsPlain c)
  | escape (e : Escape)
  | unit (u : CodeUnit) (h : u.value < 0xd800 ∨ 0xdfff < u.value)
  | pair (high low : CodeUnit) (hhigh : 0xd800 ≤ high.value ∧ high.value ≤ 0xdbff)
    (hlow : 0xdc00 ≤ low.value ∧ low.value ≤ 0xdfff)

namespace SpelledChar

def char : SpelledChar → Char
  | .plain c _ => c
  | .escape e => e.char
  | .unit u _ => Char.ofNat u.value
  | .pair high low _ _ =>
    Char.ofNat (0x10000 + 0x400 * (high.value - 0xd800) + (low.value - 0xdc00))

def pieces : SpelledChar → List Piece
  | .plain c h => [.plain c h]
  | .escape e => [.escape e]
  | .unit u _ => [.unit u]
  | .pair high low _ _ => [.unit high, .unit low]

def text (c : SpelledChar) : List Char := c.pieces.flatMap Piece.text

end SpelledChar

abbrev SpelledText := List SpelledChar

namespace SpelledText

def chars (t : SpelledText) : List Char := t.map SpelledChar.char

def ofPlain (cs : List Char) (h : cs.all (IsPlain ·) = true) : SpelledText :=
  cs.pmap .plain fun c hc => of_decide_eq_true (List.all_eq_true.1 h c hc)

def text (t : SpelledText) : List Char := t.flatMap SpelledChar.text ++ ['"']

end SpelledText

/-- Some digits, of which there is one at least. -/
structure Digits where
  chars : List Char
  isDigit : ∀ c ∈ chars, c.isDigit = true
  ne_nil : chars ≠ []

structure SpelledExponent where
  capital : Bool
  /-- The sign, if there is one, with true for a negative one. -/
  sign? : Option Bool
  digits : Digits

namespace SpelledExponent

def signText : Option Bool → List Char
  | none => []
  | some false => ['+']
  | some true => ['-']

def text (e : SpelledExponent) : List Char :=
  (if e.capital then 'E' else 'e') :: (signText e.sign? ++ e.digits.chars)

end SpelledExponent

structure SpelledNumeral where
  negative : Bool
  whole : Digits
  /-- No other digit follows a leading zero. -/
  leading : whole.chars.head? = some '0' → whole.chars = ['0']
  fraction? : Option Digits
  exponent? : Option SpelledExponent

namespace SpelledNumeral

def fractionText (n : SpelledNumeral) : List Char :=
  match n.fraction? with
  | none => []
  | some digits => '.' :: digits.chars

def exponentText (n : SpelledNumeral) : List Char :=
  match n.exponent? with
  | none => []
  | some e => e.text

def unsignedText (n : SpelledNumeral) : List Char :=
  n.whole.chars ++ (n.fractionText ++ n.exponentText)

def text (n : SpelledNumeral) : List Char :=
  if n.negative then '-' :: n.unsignedText else n.unsignedText

def numeral (n : SpelledNumeral) : Numeral where
  negative := n.negative
  whole := n.whole.chars
  fraction := (n.fraction?.map Digits.chars).getD []
  exponent? := n.exponent?.map fun e => (e.sign?.getD false, e.digits.chars)

end SpelledNumeral

/-- What stands in front of a value of a container: a key and a colon in an object, and
nothing in an array. -/
inductive Label : Kind → Type where
  | key (pieces : List Piece) (behindKey behindColon : Blanks) : Label .object
  | none : Label .array

def Label.text : {kind : Kind} → Label kind → List Char
  | _, .key pieces behindKey behindColon =>
    '"' :: (piecesText pieces ++ (behindKey.chars ++ ':' :: behindColon.chars))
  | _, .none => []

mutual

/-- A value as it is spelled. -/
inductive SpelledValue where
  | null
  | bool (b : Bool)
  | number (n : SpelledNumeral)
  | string (pieces : List Piece)
  | container (kind : Kind) (inner : Blanks) (items : SpelledItems kind)

inductive SpelledItems : Kind → Type where
  | nil {kind : Kind} : SpelledItems kind
  | cons {kind : Kind} (front : Blanks) (label : Label kind) (value : SpelledValue)
    (behind : Blanks) (items : SpelledItems kind) : SpelledItems kind

end

def opening : Kind → Char
  | .object => '\x7b'
  | .array => '['

/-- The comma in front of what is not the first of its container. -/
def commaText (first : Bool) : List Char := if first then [] else [',']

mutual

def SpelledValue.text : SpelledValue → List Char
  | .null => ['n', 'u', 'l', 'l']
  | .bool true => ['t', 'r', 'u', 'e']
  | .bool false => ['f', 'a', 'l', 's', 'e']
  | .number n => n.text
  | .string pieces => '"' :: piecesText pieces
  | .container kind inner items =>
    opening kind :: (inner.chars ++ (items.text true ++ [closing kind]))

def SpelledItems.text {kind : Kind} (first : Bool) : SpelledItems kind → List Char
  | .nil => []
  | .cons front label value behind items =>
    commaText first ++ (front.chars ++ (label.text ++ (value.text ++
      (behind.chars ++ items.text false))))

end

/-- A value may end here. -/
def Delimited (cs : List Char) : Prop :=
  ∀ c ∈ cs.head?, isBlank c = true ∨ c ∈ [',', ']', '\x7d']

end Exemplar.Json
