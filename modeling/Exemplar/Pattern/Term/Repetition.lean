import Exemplar.Pattern.Error
import Exemplar.Pattern.Term.Basic
import Exemplar.Pattern.Term.Blank
import Exemplar.Reading

/-!
# Counted repetitions

What stands between the braces of a counted repetition: a number, a number and
a comma, or two numbers with a comma between them. A bound that is missing or
too large is only an error once it is clear that the braces are closed.
-/

namespace Exemplar.Pattern

structure Count where
  min : Nat
  max : Option Nat
  greedy : Bool
deriving DecidableEq, Repr

def readDigits (verbose : Bool) : List Char → List Char × List Char
  | [] => ([], [])
  | c :: cs =>
    if c.isDigit then
      let (digits, rest) := readDigits verbose (skip verbose cs)
      (c :: digits, rest)
    else ([], c :: cs)
termination_by cs => cs.length
decreasing_by
  have := length_skip_le verbose cs
  simp only [List.length_cons]
  omega

/-- The number that decimal digits stand for. A bound has to fit into 32 bits. -/
def decimalBound (digits : List Char) : Except PatternError Nat :=
  let n := digits.foldl (fun n c => 10 * n + (c.toNat - '0'.toNat)) 0
  if digits.isEmpty then .error .repetitionCountDecimalEmpty
  else if n < Nat.pow 2 32 then .ok n
  else .error .decimalInvalid

def readBound (verbose : Bool) (cs : List Char) : Except PatternError Nat × List Char :=
  let (digits, rest) := readDigits verbose (cs.dropWhile Unicode.isBlank)
  (decimalBound digits, rest.dropWhile Unicode.isBlank)

/-- The bounds between braces, behind the opening one. The closing brace is
still part of the rest. -/
def readBounds (verbose : Bool) (cs : List Char) : Reading PatternError (Nat × Option Nat) :=
  match skip verbose cs with
  | [] => .error .repetitionCountUnclosed
  | c :: cs =>
    match readBound verbose (c :: cs) with
    | (_, []) => .error .repetitionCountUnclosed
    | (first, d :: rest) =>
      if d = ',' then
        match skip verbose rest with
        | [] => .error .repetitionCountUnclosed
        | e :: rest =>
          match first with
          | .error err => .error err
          | .ok min =>
            if e = '}' then .ok ((min, none), e :: rest)
            else
              match readBound verbose (e :: rest) with
              | (.error err, _) => .error err
              | (.ok max, rest) => .ok ((min, some max), rest)
      else
        match first with
        | .error err => .error err
        | .ok n => .ok ((n, some n), d :: rest)

/-- A question mark behind a repetition makes it lazy. -/
def readLazy : List Char → Bool × List Char
  | '?' :: cs => (false, cs)
  | cs => (true, cs)

def readCount (verbose : Bool) (cs : List Char) : Reading PatternError Count :=
  (readBounds verbose cs).andThen fun (min, max) rest =>
    match rest with
    | '}' :: rest =>
      let (greedy, rest) := readLazy (skip verbose rest)
      if max.any (· < min) then .error .repetitionCountInvalid
      else .ok (⟨min, max, greedy⟩, rest)
    | _ => .error .repetitionCountUnclosed

/-! ## The rest is an end of what was there -/

open Reading

theorem readDigits_suffix (verbose : Bool) (cs : List Char) :
    (readDigits verbose cs).2 <:+ cs := by
  fun_induction readDigits verbose cs with
  | case1 => exact List.suffix_refl _
  | case2 c cs _ digits rest h ih =>
    rw [h] at ih
    exact (ih.trans (skip_suffix _ _)).trans (List.suffix_cons c cs)
  | case3 => exact List.suffix_refl _

theorem readBound_suffix (verbose : Bool) (cs : List Char) : (readBound verbose cs).2 <:+ cs :=
  ((List.dropWhile_suffix _).trans (readDigits_suffix _ _)).trans (List.dropWhile_suffix _)

theorem readBounds_within (verbose : Bool) (cs : List Char) :
    (readBounds verbose cs).Within cs := by
  rw [readBounds]
  split
  · exact .error _
  · next c more h =>
    refine Within.trans ?_ (h ▸ skip_suffix verbose cs)
    have hfirst := readBound_suffix verbose (c :: more)
    split
    · exact .error _
    · next first d rest hb =>
      rw [hb] at hfirst
      split
      · split
        · exact .error _
        · next e rest' h' =>
          have hrest' : e :: rest' <:+ c :: more :=
            ((h' ▸ skip_suffix verbose rest).trans (List.suffix_cons d rest)).trans hfirst
          have hsecond := readBound_suffix verbose (e :: rest')
          split
          · exact .error _
          split
          · exact .ok _ hrest'
          split
          · exact .error _
          · next max last hm =>
            rw [hm] at hsecond
            exact .ok _ (hsecond.trans hrest')
      · split
        · exact .error _
        · exact .ok _ hfirst

theorem readLazy_suffix (cs : List Char) : (readLazy cs).2 <:+ cs := by
  unfold readLazy
  split
  · exact List.suffix_cons _ _
  · exact List.suffix_refl _

theorem readCount_within (verbose : Bool) (cs : List Char) : (readCount verbose cs).Within cs := by
  refine (readBounds_within verbose cs).andThen fun bounds rest hrest => ?_
  obtain ⟨min, max⟩ := bounds
  simp only
  split
  · next rest =>
    have hlazy := readLazy_suffix (skip verbose rest)
    split
    · exact .error _
    · exact .ok _ (((hlazy.trans (skip_suffix _ _)).trans (List.suffix_cons _ rest)).trans hrest)
  · exact .error _

end Exemplar.Pattern
