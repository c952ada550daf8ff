import Exemplar.Json.Printer
import Exemplar.Quoted

/-!
# Faults in the text of a document

Why a text cannot be read, and where. A place in a text is given by what is
left of it; some faults are placed a few bytes further on, behind a character
that has been looked at but does not belong there. In messages a place is a line
and a column, and columns count the bytes of a line.
-/

namespace Exemplar.Json

inductive Found where
  | null
  | bool (b : Bool)
  | integer (n : Int)
  | float (x : Float)
  | string (s : String)
  | sequence
  | map

def Found.message : Found → String
  | .null => "null"
  | .bool b => "boolean \x60" ++ (if b then "true" else "false") ++ "\x60"
  | .integer n => "integer \x60" ++ toString n ++ "\x60"
  | .float x => "floating point \x60" ++ Number.renderFloat x ++ "\x60"
  | .string s => "string " ++ quoted s
  | .sequence => "sequence"
  | .map => "map"

inductive FaultCause where
  | endInList
  | endInObject
  | endInString
  | endInValue
  | colon
  | listCommaOrEnd
  | objectCommaOrEnd
  | word
  | value
  | escape
  | hexEscapeEnd
  | loneSurrogate
  | number
  | numberOutOfRange
  | controlCharacter
  | key
  | trailingComma
  | trailingCharacters
  | type (found : Found) (expected : String)
  | range (n : Int) (expected : String)
  | duplicateField (name : String)

def FaultCause.message : FaultCause → String
  | .endInList => "EOF while parsing a list"
  | .endInObject => "EOF while parsing an object"
  | .endInString => "EOF while parsing a string"
  | .endInValue => "EOF while parsing a value"
  | .colon => "expected \x60:\x60"
  | .listCommaOrEnd => "expected \x60,\x60 or \x60]\x60"
  | .objectCommaOrEnd => "expected \x60,\x60 or \x60\x7d\x60"
  | .word => "expected ident"
  | .value => "expected value"
  | .escape => "invalid escape"
  | .hexEscapeEnd => "unexpected end of hex escape"
  | .loneSurrogate => "lone leading surrogate in hex escape"
  | .number => "invalid number"
  | .numberOutOfRange => "number out of range"
  | .controlCharacter => "control character (\\u0000-\\u001F) found while parsing a string"
  | .key => "key must be a string"
  | .trailingComma => "trailing comma"
  | .trailingCharacters => "trailing characters"
  | .type found expected => "invalid type: " ++ found.message ++ ", expected " ++ expected
  | .range n expected =>
    "invalid value: integer \x60" ++ toString n ++ "\x60, expected " ++ expected
  | .duplicateField name => "duplicate field \x60" ++ name ++ "\x60"

/-- Why a text cannot be read, and where: so many bytes behind the place where
the rest begins. -/
structure Fault where
  cause : FaultCause
  rest : List Char
  ahead : Nat

structure Position where
  line : Nat
  column : Nat
deriving DecidableEq, Repr

def byteLength (cs : List Char) : Nat := cs.foldl (fun n c => n + c.utf8Size) 0

def Position.behind (bytes : List UInt8) : Position where
  line := bytes.count 10 + 1
  column := (bytes.reverse.takeWhile (· != 10)).length

/-- The place of a fault in a text. No place lies behind the end. -/
def Fault.position (f : Fault) (text : String) : Position :=
  .behind (text.toUTF8.toList.take (text.utf8ByteSize - byteLength f.rest + f.ahead))

def Fault.message (f : Fault) (text : String) : String :=
  let position := f.position text
  f.cause.message ++ " at line " ++ toString position.line ++ " column " ++
    toString position.column

end Exemplar.Json
