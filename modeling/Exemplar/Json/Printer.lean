import Exemplar.Decimal.Layout
import Exemplar.Json.Basic

/-!
# The written form of a document

Documents are written without blanks. A string escapes the quote, the backslash
and the control characters below the blank, nothing else. An integer is written
as it is; a floating-point number has the fewest digits that read back, and
always a point or an exponent, so that it does not read back as an integer.
-/

namespace Exemplar

/-- Floating-point numbers are written positionally from `0.00001` up to, but
not including, `1e+16`. -/
def Number.layout : Decimal.Layout := ⟨-5, 16⟩

def Number.renderFloat (x : Float) : String :=
  let bits := x.toBits
  let magnitude := Binary.ofBits bits
  let text := if magnitude.mantissa = 0 then ['0', '.', '0']
    else Number.layout.write magnitude.shortest
  String.ofList (if Nat.pow 2 63 ≤ bits.toNat then '-' :: text else text)

def Number.render : Number → String
  | .int n => toString n
  | .float x => renderFloat x

namespace Json

def hexDigit (n : Nat) : Char :=
  Nat.digitChar (n % 16)

def escape (c : Char) : List Char :=
  if c = '"' then ['\\', '"']
  else if c = '\\' then ['\\', '\\']
  else if c = '\x08' then ['\\', 'b']
  else if c = '\x0c' then ['\\', 'f']
  else if c = '\n' then ['\\', 'n']
  else if c = '\r' then ['\\', 'r']
  else if c = '\t' then ['\\', 't']
  else if c.toNat < 0x20 then ['\\', 'u', '0', '0', hexDigit (c.toNat / 16), hexDigit c.toNat]
  else [c]

def quote (s : String) : String :=
  String.ofList ('"' :: s.toList.flatMap escape ++ ['"'])

mutual

def render : Json → String
  | .null => "null"
  | .bool true => "true"
  | .bool false => "false"
  | .num n => n.render
  | .str s => quote s
  | .arr items => "[" ++ renderItems items ++ "]"
  | .obj fields => "\x7b" ++ renderFields fields ++ "\x7d"

def renderItems : List Json → String
  | [] => ""
  | [v] => render v
  | v :: w :: items => render v ++ "," ++ renderItems (w :: items)

def renderFields : List (String × Json) → String
  | [] => ""
  | [(k, v)] => quote k ++ ":" ++ render v
  | (k, v) :: f :: fields => quote k ++ ":" ++ render v ++ "," ++ renderFields (f :: fields)

end

end Json

end Exemplar
