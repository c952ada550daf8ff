import Exemplar.Json.Reading.Numeral

/-!
# Skipping a value

A value that nobody asks for is skipped. It has to be well-formed, but numbers
may have any size and escapes any digits. The lists and objects that are open
are kept on a stack, and every step but those between a comma and what follows
it takes at least one character.
-/

namespace Exemplar.Json

open Exemplar.Reading

def skipScalar (c : Char) (cs : List Char) : Reading Fault Unit :=
  match c with
  | 'n' => readWord ['u', 'l', 'l'] cs
  | 't' => readWord ['r', 'u', 'e'] cs
  | 'f' => readWord ['a', 'l', 's', 'e'] cs
  | '"' => skipString cs
  | c =>
    if c = '-' then (readUnsigned .number true cs).convert fun _ => ()
    else if c.isDigit then (readUnsigned .number false (c :: cs)).convert fun _ => ()
    else failBehind .value (c :: cs)

theorem skipString_within (cs : List Char) : (skipString cs).Within cs := by
  fun_induction skipString cs with
  | case1 => exact .error _
  | case2 => exact .ok _ (List.suffix_cons ..)
  | case3 => exact .error _
  | case4 cs _ rest h _ ih =>
    exact (ih.trans (readEscape_within (fun cs => (readUnit_within cs).convert _) _ _ _ h)).cons _
  | case5 => exact .error _
  | case6 _ _ _ _ _ ih => exact ih.cons _

theorem skipScalar_within (c : Char) (cs : List Char) : (skipScalar c cs).Within cs := by
  rw [skipScalar.eq_def]
  split
  · exact readWord_within _ _
  · exact readWord_within _ _
  · exact readWord_within _ _
  · exact skipString_within _
  · exact .ite ((readUnsigned_within _ _ _).convert _) <|
      .ite ((readUnsigned_within_tail _ _ _ _).convert _) (.error _)

def skipKey (cs : List Char) : Reading Fault Unit :=
  match dropBlanks cs with
  | '"' :: rest =>
    (skipString rest).andThen fun _ rest =>
      match dropBlanks rest with
      | ':' :: rest => .ok ((), rest)
      | [] => failAt .endInObject []
      | rest => failBehind .colon rest
  | [] => failAt .endInObject []
  | rest => failBehind .key rest

theorem skipKey_within (cs : List Char) : (skipKey cs).Within cs := by
  rw [skipKey.eq_def]
  have hb := dropBlanks_suffix cs
  split
  · rename_i rest h
    rw [h] at hb
    refine Within.trans (Within.cons ((skipString_within rest).andThen fun _ rest' h' => ?_) _) hb
    have hb' := dropBlanks_suffix rest'
    split
    · rename_i h''
      rw [h''] at hb'
      exact .ok _ (((List.suffix_cons ..).trans hb').trans h')
    · exact .error _
    · exact .error _
  · exact .error _
  · exact .error _

def closing : Kind → Char
  | .object => '\x7d'
  | .array => ']'

def endIn : Kind → FaultCause
  | .object => .endInObject
  | .array => .endInList

def commaOrEnd : Kind → FaultCause
  | .object => .objectCommaOrEnd
  | .array => .listCommaOrEnd

mutual

/-- Skip a value in some containers, innermost first, and what is left of them. -/
def skipValue (containers : List Kind) (cs : List Char) : Reading Fault Unit :=
  match _ : dropBlanks cs with
  | [] => failAt .endInValue []
  | c :: rest =>
    if c = '[' then skipOn (.array :: containers) false rest
    else if c = '\x7b' then skipOn (.object :: containers) false rest
    else match _ : skipScalar c rest with
      | .error e => .error e
      | .ok (_, rest) => skipOn containers true rest
termination_by (cs.length, 0)
decreasing_by
  · exact Prod.Lex.left _ _ (length_lt_of_dropBlanks ‹_›)
  · exact Prod.Lex.left _ _ (length_lt_of_dropBlanks ‹_›)
  · rename_i h
    exact Prod.Lex.left _ _ <| Nat.lt_of_le_of_lt (skipScalar_within _ _ _ _ h).length_le
      (length_lt_of_dropBlanks ‹_›)

def skipItem (kind : Kind) (outer : List Kind) (cs : List Char) : Reading Fault Unit :=
  match kind with
  | .array => skipValue (.array :: outer) cs
  | .object =>
    match _ : skipKey cs with
    | .error e => .error e
    | .ok (_, rest) => skipValue (.object :: outer) rest
termination_by (cs.length, 1)
decreasing_by
  · apply Prod.Lex.right
    omega
  · rename_i h
    have h₁ := (skipKey_within _ _ _ h).length_le
    rcases Nat.lt_or_eq_of_le h₁ with h₁ | h₁
    · exact Prod.Lex.left _ _ h₁
    · rw [h₁]
      apply Prod.Lex.right
      omega

/-- Skip what is left of some containers, behind a value or behind the opening
of the innermost one. -/
def skipOn (containers : List Kind) (behindValue : Bool) (cs : List Char) :
    Reading Fault Unit :=
  match containers with
  | [] => .ok ((), cs)
  | kind :: outer =>
    match _ : dropBlanks cs with
    | [] => failAt (endIn kind) []
    | c :: rest =>
      if behindValue && c = ',' then skipItem kind outer rest
      else if c = closing kind then skipOn outer true rest
      else if behindValue then failBehind (commaOrEnd kind) (c :: rest)
      else skipItem kind outer (c :: rest)
termination_by (cs.length, 2)
decreasing_by
  · exact Prod.Lex.left _ _ (length_lt_of_dropBlanks ‹_›)
  · exact Prod.Lex.left _ _ (length_lt_of_dropBlanks ‹_›)
  · rcases Nat.lt_or_eq_of_le (length_lt_of_dropBlanks ‹_›) with h | h
    · exact Prod.Lex.left _ _ h
    · rw [List.length_cons, ← h]
      apply Prod.Lex.right
      omega

end

def skip (cs : List Char) : Reading Fault Unit := skipValue [] cs

end Exemplar.Json
