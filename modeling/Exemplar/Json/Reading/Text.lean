import Exemplar.Json.Fault
import Exemplar.Reading

/-!
# Reading words, blanks and strings

A string is read up to its closing quote. Escapes are a letter for the common
ones or four hexadecimal digits for a unit of sixteen bits; a character that
takes two such units has two escapes in a row.

A string whose text does not matter is only skipped. Then any four hexadecimal
digits will do, so there are strings that can be skipped but not read.
-/

namespace Exemplar.Json

open Exemplar.Reading

def isBlank (c : Char) : Bool :=
  c = ' ' || c = '\n' || c = '\t' || c = '\r'

def dropBlanks (cs : List Char) : List Char := cs.dropWhile isBlank

/-- Fail at the place where the rest begins. -/
def failAt {α : Type} (cause : FaultCause) (rest : List Char) : Reading Fault α :=
  .error ⟨cause, rest, 0⟩

/-- Fail behind the first byte of the rest. -/
def failBehind {α : Type} (cause : FaultCause) (rest : List Char) : Reading Fault α :=
  .error ⟨cause, rest, 1⟩

def readWord : List Char → List Char → Reading Fault Unit
  | [], cs => .ok ((), cs)
  | _ :: _, [] => failAt .endInValue []
  | w :: ws, c :: cs => if c = w then readWord ws cs else failBehind .word (c :: cs)

def hexValue? (c : Char) : Option Nat :=
  if c.isDigit then some (c.toNat - '0'.toNat)
  else if 'a' ≤ c && c ≤ 'f' then some (c.toNat - 'a'.toNat + 10)
  else if 'A' ≤ c && c ≤ 'F' then some (c.toNat - 'A'.toNat + 10)
  else none

def readUnit (cs : List Char) : Reading Fault Nat :=
  match cs with
  | a :: b :: c :: d :: rest =>
    match [a, b, c, d].mapM hexValue? with
    | some digits => .ok (digits.foldl (16 * · + ·) 0, rest)
    | none => .error ⟨.escape, cs, 4⟩
  | _ => if 4 ≤ byteLength cs then .error ⟨.escape, cs, 4⟩ else failAt .endInString []

def isLowUnit (n : Nat) : Bool := 0xdc00 ≤ n && n ≤ 0xdfff

def isHighUnit (n : Nat) : Bool := 0xd800 ≤ n && n ≤ 0xdbff

/-- The character that two units make up. -/
def ofUnits (high low : Nat) : Char :=
  Char.ofNat (0x10000 + 0x400 * (high - 0xd800) + (low - 0xdc00))

def readLowUnit (high : Nat) : List Char → Reading Fault Char
  | '\\' :: 'u' :: cs =>
    (readUnit cs).andThen fun low rest =>
      if isLowUnit low then .ok (ofUnits high low, rest) else failAt .loneSurrogate rest
  | ['\\'] => failAt .endInString []
  | '\\' :: cs => failBehind .hexEscapeEnd cs
  | [] => failAt .endInString []
  | cs => failBehind .hexEscapeEnd cs

def readUnits (cs : List Char) : Reading Fault Char :=
  (readUnit cs).andThen fun n rest =>
    if isLowUnit n then failAt .loneSurrogate rest
    else if isHighUnit n then readLowUnit n rest
    else .ok (Char.ofNat n, rest)

def ofEscape? (c : Char) : Option Char :=
  match c with
  | '"' => some '"'
  | '\\' => some '\\'
  | '/' => some '/'
  | 'b' => some '\x08'
  | 'f' => some '\x0c'
  | 'n' => some '\n'
  | 'r' => some '\r'
  | 't' => some '\t'
  | _ => none

/-- Read what stands behind a backslash, with `units` for the escape by units. -/
def readEscape {α : Type} (ofChar : Char → α) (units : List Char → Reading Fault α) :
    List Char → Reading Fault α
  | [] => failAt .endInString []
  | c :: cs =>
    if c = 'u' then units cs
    else match ofEscape? c with
      | some d => .ok (ofChar d, cs)
      | none => failBehind .escape (c :: cs)

theorem dropBlanks_suffix (cs : List Char) : dropBlanks cs <:+ cs := List.dropWhile_suffix _

theorem length_lt_of_dropBlanks {c : Char} {cs rest : List Char}
    (h : dropBlanks cs = c :: rest) : rest.length < cs.length := by
  have := (dropBlanks_suffix cs).length_le
  rw [h, List.length_cons] at this
  exact this

theorem readWord_within (ws cs : List Char) : (readWord ws cs).Within cs := by
  induction ws generalizing cs with
  | nil => exact .ok _ (List.suffix_refl cs)
  | cons w ws ih =>
    cases cs with
    | nil => exact .error _
    | cons c cs => exact .ite ((ih cs).cons c) (.error _)

theorem readUnit_within (cs : List Char) : (readUnit cs).Within cs := by
  rw [readUnit.eq_def]
  split
  · split
    · exact .ok _ (((List.suffix_refl _).trans (List.suffix_cons ..)).trans <|
        (List.suffix_cons ..).trans <| (List.suffix_cons ..).trans (List.suffix_cons ..))
    · exact .error _
  · exact .ite (.error _) (.error _)

theorem readLowUnit_within (high : Nat) (cs : List Char) : (readLowUnit high cs).Within cs := by
  rw [readLowUnit.eq_def]
  split
  · exact (((readUnit_within _).andThen fun _ _ h =>
      .ite (.ok _ h) (.error _)).cons _).cons _
  all_goals exact .error _

theorem readUnits_within (cs : List Char) : (readUnits cs).Within cs :=
  (readUnit_within cs).andThen fun _ rest h =>
    .ite (.error _) <| .ite ((readLowUnit_within _ rest).trans h) (.ok _ h)

theorem readEscape_within {α : Type} {ofChar : Char → α} {units : List Char → Reading Fault α}
    (h : ∀ cs, (units cs).Within cs) (cs : List Char) :
    (readEscape ofChar units cs).Within cs := by
  cases cs with
  | nil => exact .error _
  | cons c cs =>
    refine .ite ((h cs).cons c) ?_
    split
    · exact .ok _ (List.suffix_cons c cs)
    · exact .error _

def readString (cs : List Char) : Reading Fault (List Char) :=
  match cs with
  | [] => failAt .endInString []
  | c :: cs =>
    if c = '"' then .ok ([], cs)
    else if c = '\\' then
      match _ : readEscape id readUnits cs with
      | .error e => .error e
      | .ok (d, rest) => (readString rest).convert (d :: ·)
    else if c.toNat < 0x20 then failBehind .controlCharacter (c :: cs)
    else (readString cs).convert (c :: ·)
termination_by cs.length
decreasing_by
  · rename_i h
    have := (readEscape_within readUnits_within _ _ _ h).length_le
    simp only [List.length_cons]
    omega
  · simp

def skipString (cs : List Char) : Reading Fault Unit :=
  match cs with
  | [] => failAt .endInString []
  | c :: cs =>
    if c = '"' then .ok ((), cs)
    else if c = '\\' then
      match _ : readEscape (fun _ => ()) (fun cs => (readUnit cs).convert fun _ => ()) cs with
      | .error e => .error e
      | .ok (_, rest) => skipString rest
    else if c.toNat < 0x20 then failAt .controlCharacter (c :: cs)
    else skipString cs
termination_by cs.length
decreasing_by
  · rename_i h
    have := (readEscape_within (fun cs => (readUnit_within cs).convert _) _ _ _ h).length_le
    simp only [List.length_cons]
    omega
  · simp

end Exemplar.Json
