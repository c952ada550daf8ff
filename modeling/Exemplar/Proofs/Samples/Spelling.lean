import Exemplar.Proofs.Json.Scalars
import Exemplar.Samples.Reader

/-!
# Sample values as they are spelled

A sample value has the spellings of its kind: a text has those of a string, a truth value is a
word, and an integer is written in decimal digits. A floating-point number is any number whose
value can be told; `-0` is one, and not an integer.

`Field.read` reads a sample value of its field back from the text: `read_text`.
-/

namespace Exemplar.Samples

open Exemplar.Json Exemplar.Reading

def Value.field : Value → Field
  | .string _ => .string
  | .integer _ => .integer
  | .decimal _ => .decimal
  | .boolean _ => .boolean
  | .id _ => .id
  | .hex _ => .hex
  | .uuid _ => .uuid
  | .ipAddress _ => .ipAddress
  | .examples _ => .examples

structure Signed where
  n : Int
  least : -(Nat.pow 2 63 : Nat) ≤ n
  greatest : n ≤ (Nat.pow 2 63 - 1 : Nat)

structure Count where
  n : Nat
  greatest : n ≤ Nat.pow 2 64 - 1

structure SpelledDecimal where
  numeral : SpelledNumeral
  number : Number
  value_eq : numeral.numeral.value [] = .ok (number, [])

def SpelledDecimal.float (d : SpelledDecimal) : Float :=
  match d.number with
  | .int n => Float.ofInt n
  | .float x => x

inductive SpelledSample where
  | string (t : SpelledText)
  | integer (n : Signed)
  | decimal (d : SpelledDecimal)
  | boolean (b : Bool)
  | id (n : Signed)
  | hex (t : SpelledText)
  | uuid (t : SpelledText)
  | ipAddress (t : SpelledText)
  | examples (n : Count)

namespace SpelledSample

def value : SpelledSample → Value
  | .string t => .string (.ofList t.chars)
  | .integer n => .integer n.n
  | .decimal d => .decimal d.float
  | .boolean b => .boolean b
  | .id n => .id n.n
  | .hex t => .hex (.ofList t.chars)
  | .uuid t => .uuid (.ofList t.chars)
  | .ipAddress t => .ipAddress (.ofList t.chars)
  | .examples n => .examples n.n

def text : SpelledSample → List Char
  | .string t | .hex t | .uuid t | .ipAddress t => '"' :: t.text
  | .integer n | .id n => (SpelledNumeral.ofInt n.n).text
  | .decimal d => d.numeral.text
  | .boolean true => ['t', 'r', 'u', 'e']
  | .boolean false => ['f', 'a', 'l', 's', 'e']
  | .examples n => (SpelledNumeral.ofInt n.n).text

end SpelledSample

/-! ### Reading a sample value back -/

/-- The reader takes a text for `a`, whatever delimits the text. It gets the first character on
its own, and this is no blank. -/
def Reads {α : Type} (reader : Char → List Char → Reading Fault α) (text : List Char) (a : α) :
    Prop :=
  ∃ c cs, text = c :: cs ∧ isBlank c = false ∧
    ∀ rest, Delimited rest → reader c (cs ++ rest) = .ok (a, rest)

theorem reads_text (t : SpelledText) : Reads readText ('"' :: t.text) (.ofList t.chars) := by
  refine ⟨'"', t.text, rfl, rfl, fun rest _ => ?_⟩
  rw [readText, if_pos rfl, readString_text]
  rfl

theorem reads_true : Reads readFlag ['t', 'r', 'u', 'e'] true :=
  ⟨'t', ['r', 'u', 'e'], rfl, rfl, fun rest _ =>
    congrArg (·.convert fun _ => true) (readWord_append ['r', 'u', 'e'] rest)⟩

theorem reads_false : Reads readFlag ['f', 'a', 'l', 's', 'e'] false :=
  ⟨'f', ['a', 'l', 's', 'e'], rfl, rfl, fun rest _ =>
    congrArg (·.convert fun _ => false) (readWord_append ['a', 'l', 's', 'e'] rest)⟩

/-- What begins with a sign or a digit is read as a number by all readers that take numbers. -/
theorem reads_number {α : Type} {reader : Char → List Char → Reading Fault α} {a : α}
    {n : SpelledNumeral} {x : Number} (hvalue : ∀ rest, n.numeral.value rest = .ok (x, rest))
    (hreader : ∀ c cs rest, (c = '-' || c.isDigit) = true →
      readNumber (c :: cs) = .ok (x, rest) → reader c cs = .ok (a, rest)) :
    Reads reader n.text a := by
  obtain ⟨c, cs, hcons, hc⟩ := n.exists_text_eq_cons
  refine ⟨c, cs, hcons, (head_of_number hc).1, fun rest hrest => ?_⟩
  refine hreader c (cs ++ rest) rest (by simpa using hc) ?_
  rw [← List.cons_append, ← hcons, readNumber, n.readNumeral_append .endInValue hrest]
  exact hvalue rest

theorem reads_integer (expected : String) {least greatest n : Int}
    (hleast : least ≤ n ∧ -(Nat.pow 2 63 : Nat) ≤ least)
    (hgreatest : n ≤ greatest ∧ greatest < Nat.pow 2 64) :
    Reads (readInteger expected least greatest) (SpelledNumeral.ofInt n).text n := by
  refine reads_number (value_ofInt (Int.le_trans hleast.2 hleast.1)
    (Int.lt_of_le_of_lt hgreatest.1 hgreatest.2)) fun c cs rest hc hread => ?_
  rw [readInteger, if_pos hc, hread]
  exact if_pos ⟨hleast.1, hgreatest.1⟩

theorem reads_signed (n : Signed) : Reads readSigned (SpelledNumeral.ofInt n.n).text n.n :=
  reads_integer "i64" ⟨n.least, by decide⟩ ⟨n.greatest, by decide⟩

theorem reads_count (n : Count) : Reads readCount (SpelledNumeral.ofInt n.n).text n.n := by
  have hgreatest : (n.n : Int) ≤ (Nat.pow 2 64 - 1 : Nat) := Int.ofNat_le.2 n.greatest
  obtain ⟨c, cs, hcons, hblank, hread⟩ :=
    reads_integer "usize" ⟨Int.natCast_nonneg n.n, by decide⟩ ⟨hgreatest, by decide⟩
  exact ⟨c, cs, hcons, hblank, fun rest hrest =>
    congrArg (·.convert Int.toNat) (hread rest hrest)⟩

theorem reads_decimal (d : SpelledDecimal) : Reads readDecimal d.numeral.text d.float := by
  refine reads_number (value_of_value_nil d.value_eq) fun c cs rest hc hread => ?_
  rw [readDecimal, if_pos hc, hread]
  rfl

theorem Reads.field_read {α : Type} {reader : Char → List Char → Reading Fault α}
    {text : List Char} {a : α} {f : Field} {ofValue : α → Value} {rest : List Char}
    (h : Reads reader text a)
    (hf : ∀ cs, f.read cs = match dropBlanks cs with
      | [] => failAt .endInValue []
      | c :: rest => (reader c rest).convert ofValue)
    (front : Json.Blanks) (hrest : Delimited rest) :
    f.read (front.chars ++ (text ++ rest)) = .ok (ofValue a, rest) := by
  obtain ⟨c, cs, rfl, hblank, hread⟩ := h
  rw [hf, List.cons_append, dropBlanks_append front hblank]
  exact congrArg (·.convert ofValue) (hread rest hrest)

/-- A sample value is read as it is spelled, behind any blanks. -/
theorem Field.read_text (v : SpelledSample) (front : Json.Blanks) {rest : List Char}
    (hrest : Delimited rest) :
    v.value.field.read (front.chars ++ (v.text ++ rest)) = .ok (v.value, rest) := by
  cases v with
  | string t => exact (reads_text t).field_read (fun _ => rfl) front hrest
  | integer n => exact (reads_signed n).field_read (fun _ => rfl) front hrest
  | decimal d => exact (reads_decimal d).field_read (fun _ => rfl) front hrest
  | boolean b =>
    cases b with
    | true => exact reads_true.field_read (fun _ => rfl) front hrest
    | false => exact reads_false.field_read (fun _ => rfl) front hrest
  | id n => exact (reads_signed n).field_read (fun _ => rfl) front hrest
  | hex t => exact (reads_text t).field_read (fun _ => rfl) front hrest
  | uuid t => exact (reads_text t).field_read (fun _ => rfl) front hrest
  | ipAddress t => exact (reads_text t).field_read (fun _ => rfl) front hrest
  | examples n => exact (reads_count n).field_read (fun _ => rfl) front hrest

end Exemplar.Samples
