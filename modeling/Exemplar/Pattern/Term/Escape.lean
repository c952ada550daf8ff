import Exemplar.Pattern.Error
import Exemplar.Pattern.Term.Basic
import Exemplar.Pattern.Term.Blank
import Exemplar.Reading

/-!
# Escape sequences

What a backslash and the characters behind it stand for. Nearly all sequences
have a fixed length; the spelling of a character by its number, the classes by
property and the special word boundaries have parts of their own.
-/

namespace Exemplar.Pattern

inductive Primitive where
  | literal (l : Literal)
  | assertion (a : Assertion)
  | letter (kind : LetterClass) (negated : Bool)
  | property (query : Unicode.Query) (negated : Bool)
deriving DecidableEq, Repr

def Primitive.toTerm : Primitive → Term
  | .literal l => .literal l
  | .assertion a => .assertion a
  | .letter kind negated => .letter kind negated
  | .property query negated => .property query negated

def Primitive.toItem : Primitive → Except PatternError ClassItem
  | .literal l => .ok (.literal l)
  | .letter kind negated => .ok (.letter kind negated)
  | .property query negated => .ok (.property query negated)
  | .assertion _ => .error .classEscapeInvalid

def Primitive.toBoundary : Primitive → Except PatternError Literal
  | .literal l => .ok l
  | _ => .error .classRangeLiteral

def isHexDigit (c : Char) : Bool :=
  c.isDigit || ('a' ≤ c && c ≤ 'f') || ('A' ≤ c && c ≤ 'F')

def hexNumber (digits : List Char) : Nat :=
  digits.foldl (fun n c => 16 * n + Unicode.hexDigitValue c.toLower) 0

def hexChar (digits : List Char) : Except PatternError Char :=
  let n := hexNumber digits
  if n.isValidChar then .ok (Char.ofNat n) else .error .escapeHexInvalid

def readHexDigits (verbose : Bool) : Nat → List Char → Reading PatternError (List Char)
  | 0, cs => .ok ([], cs)
  | _, [] => .error .escapeUnexpectedEnd
  | n + 1, c :: cs =>
    if isHexDigit c then
      (readHexDigits verbose n (skip verbose cs)).convert (c :: ·)
    else .error .escapeHexInvalidDigit

def readHexBraced (verbose : Bool) : List Char → Reading PatternError (List Char)
  | [] => .error .escapeUnexpectedEnd
  | c :: cs =>
    if c = '}' then .ok ([], skip verbose cs)
    else if isHexDigit c then
      (readHexBraced verbose (skip verbose cs)).convert (c :: ·)
    else .error .escapeHexInvalidDigit
termination_by cs => cs.length
decreasing_by
  have := length_skip_le verbose cs
  simp only [List.length_cons]
  omega

/-- A character spelled by its number: braces, or `width` digits. -/
def readHex (verbose : Bool) (width : Nat) (cs : List Char) : Reading PatternError Literal :=
  match skip verbose cs with
  | [] => .error .escapeUnexpectedEnd
  | c :: rest =>
    if c = '{' then
      (readHexBraced verbose (skip verbose rest)).refine fun digits =>
        if digits.isEmpty then .error .escapeHexEmpty
        else (hexChar digits).map (⟨·, false⟩)
    else
      (readHexDigits verbose width (c :: rest)).refine fun digits =>
        (hexChar digits).map (⟨·, width = 2⟩)

def readBraced (verbose : Bool) : List Char → Reading PatternError (List Char)
  | [] => .error .escapeUnexpectedEnd
  | c :: cs =>
    if c = '}' then .ok ([], cs)
    else (readBraced verbose (skip verbose cs)).convert (c :: ·)
termination_by cs => cs.length
decreasing_by
  have := length_skip_le verbose cs
  simp only [List.length_cons]
  omega

/-- Cut at the first place where `mark` stands, which is left out. -/
def cutAt? (mark : List Char) : List Char → Option (List Char × List Char)
  | [] => none
  | c :: cs =>
    if mark.isPrefixOf (c :: cs) then some ([], (c :: cs).drop mark.length)
    else (cutAt? mark cs).map fun (before, behind) => (c :: before, behind)

/-- The query between the braces of a property class, and whether the characters
that are asked for are the other ones. -/
def propertyQuery (content : List Char) : Unicode.Query × Bool :=
  match cutAt? ['!', '='] content with
  | some (property, value) => (.value (String.ofList property) (String.ofList value), true)
  | none =>
    match cutAt? [':'] content <|> cutAt? ['='] content with
    | some (property, value) => (.value (String.ofList property) (String.ofList value), false)
    | none => (.name (String.ofList content), false)

def readProperty (verbose : Bool) (cs : List Char) :
    Reading PatternError (Unicode.Query × Bool) :=
  match skip verbose cs with
  | [] => .error .escapeUnexpectedEnd
  | c :: rest =>
    if c = '{' then
      (readBraced verbose (skip verbose rest)).convert propertyQuery
    else if c = '\\' then .error .propertyLetterInvalid
    else .ok ((.name c.toString, false), rest)

def isBoundaryChar (c : Char) : Bool :=
  ('A' ≤ c && c ≤ 'Z') || ('a' ≤ c && c ≤ 'z') || c = '-'

def readBoundaryName (verbose : Bool) : List Char → List Char × List Char
  | [] => ([], [])
  | c :: cs =>
    if isBoundaryChar c then
      let (name, rest) := readBoundaryName verbose (skip verbose cs)
      (c :: name, rest)
    else ([], c :: cs)
termination_by cs => cs.length
decreasing_by
  have := length_skip_le verbose cs
  simp only [List.length_cons]
  omega

def boundaryOfName? (name : List Char) : Option Assertion :=
  if name = "start".toList then some .wordStart
  else if name = "end".toList then some .wordEnd
  else if name = "start-half".toList then some .wordStartHalf
  else if name = "end-half".toList then some .wordEndHalf
  else none

/-- A word boundary, behind its letter. A brace opens the name of a special
boundary if a character follows that can occur in one; otherwise it is left for
a counted repetition. -/
def readBoundary (verbose : Bool) : List Char → Reading PatternError Assertion
  | '{' :: cs =>
    match skip verbose cs with
    | [] => .error .specialWordOrRepetitionUnexpectedEnd
    | c :: rest =>
      if isBoundaryChar c then
        match readBoundaryName verbose (c :: rest) with
        | (name, '}' :: rest) =>
          match boundaryOfName? name with
          | some a => .ok (a, rest)
          | none => .error .specialWordBoundaryUnrecognized
        | _ => .error .specialWordBoundaryUnclosed
      else .ok (.wordBoundary, '{' :: cs)
  | cs => .ok (.wordBoundary, cs)

def metaChars : List Char :=
  ['\\', '.', '+', '*', '?', '(', ')', '|', '[', ']', '{', '}', '^', '$', '#', '&', '-', '~']

/-- A backslash in front of the character makes it stand for itself. Of the
basic characters these are all but the letters, the digits and the two signs
for the ends of a word. -/
def isEscapable (c : Char) : Bool :=
  metaChars.contains c ||
    (c.toNat < 0x80 && !c.isAlphanum && c ≠ '<' && c ≠ '>')

def controlChar? (c : Char) : Option Char :=
  match c with
  | 'a' => some '\x07'
  | 'f' => some '\x0c'
  | 't' => some '\t'
  | 'n' => some '\n'
  | 'r' => some '\r'
  | 'v' => some '\x0b'
  | _ => none

def shortEscape? (c : Char) : Option Primitive :=
  match c with
  | 'd' => some (.letter .digit false)
  | 'D' => some (.letter .digit true)
  | 's' => some (.letter .space false)
  | 'S' => some (.letter .space true)
  | 'w' => some (.letter .word false)
  | 'W' => some (.letter .word true)
  | 'A' => some (.assertion .startText)
  | 'z' => some (.assertion .endText)
  | 'B' => some (.assertion .notWordBoundary)
  | '<' => some (.assertion .wordStart)
  | '>' => some (.assertion .wordEnd)
  | c =>
    if isEscapable c then some (.literal ⟨c, false⟩)
    else (controlChar? c).map fun control => .literal ⟨control, false⟩

def readEscape (verbose : Bool) : List Char → Reading PatternError Primitive
  | [] => .error .escapeUnexpectedEnd
  | c :: cs =>
    if c.isDigit then .error .unsupportedBackreference
    else if c = 'x' then (readHex verbose 2 cs).convert .literal
    else if c = 'u' then (readHex verbose 4 cs).convert .literal
    else if c = 'U' then (readHex verbose 8 cs).convert .literal
    else if c = 'p' then
      (readProperty verbose cs).convert fun (query, others) => .property query others
    else if c = 'P' then
      (readProperty verbose cs).convert fun (query, others) => .property query !others
    else if c = 'b' then (readBoundary verbose cs).convert .assertion
    else match shortEscape? c with
    | some primitive => .ok (primitive, cs)
    | none => .error .escapeUnrecognized

/-! ## The rest is an end of what was there -/

open Reading

theorem readHexDigits_within (verbose : Bool) (n : Nat) (cs : List Char) :
    (readHexDigits verbose n cs).Within cs := by
  induction n generalizing cs with
  | zero => exact .ok _ (List.suffix_refl _)
  | succ n ih =>
    cases cs with
    | nil => exact .error _
    | cons c cs =>
      rw [readHexDigits]
      split
      · exact (((ih _).convert _).trans (skip_suffix _ _)).cons c
      · exact .error _

theorem readHexBraced_within (verbose : Bool) (cs : List Char) :
    (readHexBraced verbose cs).Within cs := by
  fun_induction readHexBraced verbose cs with
  | case1 => exact .error _
  | case2 cs => exact .ok _ ((skip_suffix _ _).trans (List.suffix_cons _ cs))
  | case3 c cs _ _ ih => exact ((ih.convert _).trans (skip_suffix _ _)).cons c
  | case4 => exact .error _

theorem readHex_within (verbose : Bool) (width : Nat) (cs : List Char) :
    (readHex verbose width cs).Within cs := by
  rw [readHex]
  split
  · exact .error _
  · next c rest h =>
    refine Within.trans ?_ (h ▸ skip_suffix verbose cs)
    split
    · exact (((readHexBraced_within _ _).refine _).trans (skip_suffix _ _)).cons c
    · exact (readHexDigits_within _ _ _).refine _

theorem readBraced_within (verbose : Bool) (cs : List Char) :
    (readBraced verbose cs).Within cs := by
  fun_induction readBraced verbose cs with
  | case1 => exact .error _
  | case2 cs => exact .ok _ (List.suffix_cons _ cs)
  | case3 c cs _ ih => exact ((ih.convert _).trans (skip_suffix _ _)).cons c

theorem readProperty_within (verbose : Bool) (cs : List Char) :
    (readProperty verbose cs).Within cs := by
  rw [readProperty]
  split
  · exact .error _
  · next c rest h =>
    refine Within.trans ?_ (h ▸ skip_suffix verbose cs)
    split
    · exact (((readBraced_within _ _).convert _).trans (skip_suffix _ _)).cons c
    · split
      · exact .error _
      · exact .ok _ (List.suffix_cons _ _)

theorem readBoundaryName_suffix (verbose : Bool) (cs : List Char) :
    (readBoundaryName verbose cs).2 <:+ cs := by
  fun_induction readBoundaryName verbose cs with
  | case1 => exact List.suffix_refl _
  | case2 c cs _ name rest h ih =>
    rw [h] at ih
    exact (ih.trans (skip_suffix _ _)).trans (List.suffix_cons c cs)
  | case3 => exact List.suffix_refl _

theorem readBoundary_within (verbose : Bool) (cs : List Char) :
    (readBoundary verbose cs).Within cs := by
  unfold readBoundary
  split
  · next cs =>
    split
    · exact .error _
    · next c rest h =>
      split
      · have hname := readBoundaryName_suffix verbose (c :: rest)
        split
        · next name rest' hn =>
          rw [hn] at hname
          have hrest : rest' <:+ '{' :: cs :=
            (((List.suffix_cons _ _).trans hname).trans (h ▸ skip_suffix verbose cs)).trans
              (List.suffix_cons _ _)
          split
          · exact .ok _ hrest
          · exact .error _
        · exact .error _
      · exact .ok _ (List.suffix_refl _)
  · exact .ok _ (List.suffix_refl _)

theorem readEscape_within (verbose : Bool) (cs : List Char) :
    (readEscape verbose cs).Within cs := by
  cases cs with
  | nil => exact .error _
  | cons c cs =>
    have hcs : cs <:+ c :: cs := List.suffix_cons c cs
    rw [readEscape]
    split
    · exact .error _
    split
    · exact ((readHex_within _ _ _).convert _).trans hcs
    split
    · exact ((readHex_within _ _ _).convert _).trans hcs
    split
    · exact ((readHex_within _ _ _).convert _).trans hcs
    split
    · exact ((readProperty_within _ _).convert _).trans hcs
    split
    · exact ((readProperty_within _ _).convert _).trans hcs
    split
    · exact ((readBoundary_within _ _).convert _).trans hcs
    split
    · exact .ok _ hcs
    · exact .error _

end Exemplar.Pattern
