import Exemplar.Error
import Exemplar.Json.Reading.Skip
import Exemplar.Samples.Basic

/-!
# Reading sample values

Sample values are read from an object that names some of them, or from a list
that gives the first ones in order; the others keep their defaults. Members with
other names are skipped. What stands behind the object or list is not looked at.

The reading stops at the first fault, and the fault is reported with the member
or element in which it was found.
-/

namespace Exemplar.Samples

open Exemplar.Json Exemplar.Reading

inductive Place where
  | outside
  | nextKey
  | member (key : String)
  | element (i : Nat)

def Place.render : Place → String
  | .outside => "."
  | .nextKey => "?"
  | .member key => key
  | .element i => "[" ++ toString i ++ "]"

structure Misplaced where
  place : Place
  fault : Fault

def foundNumber : Number → Found
  | .int n => .integer n
  | .float x => .float x

/-- The fault of a value that begins with `c` and is not what is expected. -/
def unexpected {α : Type} (expected : String) (c : Char) (cs : List Char) : Reading Fault α :=
  match c with
  | 'n' => (readWord ['u', 'l', 'l'] cs).andThen fun _ => failAt (.type .null expected)
  | 't' => (readWord ['r', 'u', 'e'] cs).andThen fun _ => failAt (.type (.bool true) expected)
  | 'f' => (readWord ['a', 'l', 's', 'e'] cs).andThen fun _ => failAt (.type (.bool false) expected)
  | '"' => (readString cs).andThen fun s => failAt (.type (.string (.ofList s)) expected)
  | '[' => failAt (.type .sequence expected) (c :: cs)
  | '{' => failAt (.type .map expected) (c :: cs)
  | c =>
    if c = '-' || c.isDigit then
      (readNumber (c :: cs)).andThen fun n => failAt (.type (foundNumber n) expected)
    else failBehind .value (c :: cs)

def readText (c : Char) (cs : List Char) : Reading Fault String :=
  if c = '"' then (readString cs).convert .ofList else unexpected "a string" c cs

def readFlag (c : Char) (cs : List Char) : Reading Fault Bool :=
  if c = 't' then (readWord ['r', 'u', 'e'] cs).convert fun _ => true
  else if c = 'f' then (readWord ['a', 'l', 's', 'e'] cs).convert fun _ => false
  else unexpected "a boolean" c cs

def readInteger (expected : String) (least greatest : Int) (c : Char) (cs : List Char) :
    Reading Fault Int :=
  if c = '-' || c.isDigit then
    (readNumber (c :: cs)).andThen fun n rest =>
      match n with
      | .int n =>
        if least ≤ n ∧ n ≤ greatest then .ok (n, rest) else failAt (.range n expected) rest
      | .float x => failAt (.type (.float x) expected) rest
  else unexpected expected c cs

def readSigned : Char → List Char → Reading Fault Int :=
  readInteger "i64" (-(Nat.pow 2 63 : Nat)) (Nat.pow 2 63 - 1 : Nat)

def readCount (c : Char) (cs : List Char) : Reading Fault Nat :=
  (readInteger "usize" 0 (Nat.pow 2 64 - 1 : Nat) c cs).convert Int.toNat

/-- Read a floating-point number, which may be written as an integer. -/
def readDecimal (c : Char) (cs : List Char) : Reading Fault Float :=
  if c = '-' || c.isDigit then
    (readNumber (c :: cs)).convert fun n =>
      match n with
      | .int n => Float.ofInt n
      | .float x => x
  else unexpected "f64" c cs

def Field.read (f : Field) (cs : List Char) : Reading Fault Value :=
  match dropBlanks cs with
  | [] => failAt .endInValue []
  | c :: rest =>
    match f with
    | .string => (readText c rest).convert .string
    | .integer => (readSigned c rest).convert .integer
    | .decimal => (readDecimal c rest).convert .decimal
    | .boolean => (readFlag c rest).convert .boolean
    | .id => (readSigned c rest).convert .id
    | .hex => (readText c rest).convert .hex
    | .uuid => (readText c rest).convert .uuid
    | .ipAddress => (readText c rest).convert .ipAddress
    | .examples => (readCount c rest).convert .examples

/-- Read up to the next key and its opening quote, if the object goes on. -/
def readKeyStart (first : Bool) (cs : List Char) : Reading Fault Bool :=
  match dropBlanks cs with
  | [] => failAt .endInObject []
  | c :: rest =>
    if c = '\x7d' then .ok (false, rest)
    else if first then
      if c = '"' then .ok (true, rest) else failBehind .key (c :: rest)
    else if c = ',' then
      match dropBlanks rest with
      | [] => failAt .endInValue []
      | d :: rest =>
        if d = '"' then .ok (true, rest)
        else failBehind (if d = '\x7d' then .trailingComma else .key) (d :: rest)
    else failBehind .objectCommaOrEnd (c :: rest)

def readColon (cs : List Char) : Reading Fault Unit :=
  match dropBlanks cs with
  | [] => failAt .endInObject []
  | c :: rest => if c = ':' then .ok ((), rest) else failBehind .colon (c :: rest)

/-- The rest behind a key that came up before: the object is taken to end here. -/
def behindDuplicate (cs : List Char) : List Char :=
  match dropBlanks cs with
  | '\x7d' :: rest => rest
  | rest => rest

/-- A member of an object: a value to be set, or nothing if its name is unknown. -/
abbrev Member := Option (Field × Value)

def placed {α : Type} (place : Place) (r : Reading Fault α) : Reading Misplaced α :=
  r.mapError (⟨place, ·⟩)

def readMember (seen : List Field) (cs : List Char) : Reading Misplaced Member :=
  (placed .nextKey (readString cs)).andThen fun key rest =>
    match Field.ofName? (.ofList key) with
    | none =>
      (placed .outside (readColon rest)).andThen fun _ rest =>
        (placed (.member (.ofList key)) (skip rest)).convert fun _ => none
    | some f =>
      if f ∈ seen then placed .outside (failAt (.duplicateField f.name) (behindDuplicate rest))
      else
        (placed .outside (readColon rest)).andThen fun _ rest =>
          (placed (.member f.name) (f.read rest)).convert fun v => some (f, v)

/-- Read the members of an object, behind its opening brace or behind a member.
There are no more than `fuel` of them. -/
def readMembers : Nat → List Field → Samples → Bool → List Char → Except Misplaced Samples
  | 0, _, s, _, _ => .ok s
  | fuel + 1, seen, s, first, cs =>
    match placed .nextKey (readKeyStart first cs) with
    | .error e => .error e
    | .ok (false, _) => .ok s
    | .ok (true, rest) =>
      match readMember seen rest with
      | .error e => .error e
      | .ok (none, rest) => readMembers fuel seen s false rest
      | .ok (some (f, v), rest) => readMembers fuel (f :: seen) (s.set v) false rest

def readElementStart (first : Bool) (cs : List Char) : Reading Fault Bool :=
  match dropBlanks cs with
  | [] => failAt .endInList []
  | c :: rest =>
    if c = ']' then .ok (false, rest)
    else if first then .ok (true, c :: rest)
    else if c = ',' then
      match dropBlanks rest with
      | [] => failAt .endInValue []
      | d :: rest =>
        if d = ']' then failBehind .trailingComma (d :: rest) else .ok (true, d :: rest)
    else failBehind .listCommaOrEnd (c :: rest)

def readListEnd (cs : List Char) : Reading Fault Unit :=
  match dropBlanks cs with
  | [] => failAt .endInList []
  | c :: rest =>
    if c = ']' then .ok ((), rest)
    else if c = ',' then
      match dropBlanks rest with
      | ']' :: rest => failBehind .trailingComma (']' :: rest)
      | rest => failBehind .trailingCharacters rest
    else failBehind .trailingCharacters (c :: rest)

/-- Read the elements of a list, which are the values of these fields, behind
`i` elements. -/
def readElements : List Field → Nat → Samples → List Char → Except Misplaced Samples
  | [], _, s, cs =>
    match placed .outside (readListEnd cs) with
    | .error e => .error e
    | .ok _ => .ok s
  | f :: fields, i, s, cs =>
    match placed .outside (readElementStart (i = 0) cs) with
    | .error e => .error e
    | .ok (false, _) => .ok s
    | .ok (true, rest) =>
      match placed (.element i) (f.read rest) with
      | .error e => .error e
      | .ok (v, rest) => readElements fields (i + 1) (s.set v) rest

def read (cs : List Char) : Except Misplaced Samples :=
  match dropBlanks cs with
  | [] => .error ⟨.outside, .endInValue, [], 0⟩
  | c :: rest =>
    if c = '[' then readElements Field.all 0 {} rest
    else if c = '\x7b' then readMembers cs.length [] {} true rest
    else (placed .outside (unexpected "struct Samples" c rest)).map (·.1)

def parse (text : String) : Except BuildError Samples :=
  (read text.toList).mapError fun e => .samples e.place.render (e.fault.message text)

end Exemplar.Samples
