import Exemplar.Pattern.Error
import Exemplar.Pattern.Term.Basic
import Exemplar.Pattern.Term.Blank
import Exemplar.Reading
import Exemplar.Unicode.Category
import Exemplar.Unicode.Property
import Exemplar.Unicode.Youngest

/-!
# The beginning of a group

What stands behind an opening parenthesis: nothing, for a group that captures;
a name, for one that captures under the name; or flags, either for the group or
for the remainder of the enclosing one.
-/

namespace Exemplar.Pattern

def Flag.ofChar? (c : Char) : Option Flag :=
  match c with
  | 'i' => some .ignoreCase
  | 'm' => some .multiLine
  | 's' => some .dotMatchesNewline
  | 'U' => some .swapGreed
  | 'u' => some .unicode
  | 'R' => some .crlf
  | 'x' => some .verbose
  | _ => none

/-- Flags up to a colon or a closing parenthesis, and whether it was a colon. A
hyphen turns off the flags behind it, of which there has to be one. -/
def readFlags (negated dangling : Bool) (changes : FlagChanges) :
    List Char → Reading PatternError (FlagChanges × Bool)
  | [] => .error .flagUnexpectedEnd
  | c :: cs =>
    if c = ':' || c = ')' then
      if dangling then .error .flagDanglingNegation else .ok ((changes, c = ':'), cs)
    else if c = '-' then
      if negated then .error .flagRepeatedNegation else readFlags true true changes cs
    else
      match Flag.ofChar? c with
      | none => .error .flagUnrecognized
      | some flag =>
        if changes.any (·.1 = flag) then .error .flagDuplicate
        else readFlags negated false (changes ++ [(flag, !negated)]) cs

def letters : Unicode.CodePoints :=
  .union [Unicode.Property.among ["alphabetic"], Unicode.Youngest.letters]

def numbers : Unicode.CodePoints :=
  .union [Unicode.Category.among ["n"], Unicode.Youngest.numbers]

def isNameChar (first : Bool) (c : Char) : Bool :=
  if first then c = '_' || letters.has c
  else c = '_' || c = '.' || c = '[' || c = ']' || letters.has c || numbers.has c

def readGroupName (first : Bool) : List Char → Reading PatternError (List Char)
  | [] => .error .groupNameUnexpectedEnd
  | c :: cs =>
    if c = '>' then .ok ([], cs)
    else if isNameChar first c then (readGroupName false cs).convert (c :: ·)
    else .error .groupNameInvalid

inductive GroupStart where
  | flags (changes : FlagChanges)
  | plain (changes : FlagChanges)
  | capture (name : Option String)

def readNewName (names : List String) (cs : List Char) : Reading PatternError GroupStart :=
  (readGroupName true cs).refine fun name =>
    if name.isEmpty then .error .groupNameEmpty
    else if names.contains (String.ofList name) then .error .groupNameDuplicate
    else .ok (.capture (some (String.ofList name)))

/-- What follows the question mark behind a parenthesis, if it is neither a
look-around nor a name. Flags for the remainder of the enclosing group have to
name one at least. -/
def readGroupFlags (cs : List Char) : Reading PatternError GroupStart :=
  if cs.isEmpty then .error .groupUnclosed
  else (readFlags false false [] cs).refine fun (changes, colon) =>
    if colon then .ok (.plain changes)
    else if changes.isEmpty then .error .repetitionMissing
    else .ok (.flags changes)

def isLookAround (cs : List Char) : Bool :=
  ['='].isPrefixOf cs || ['!'].isPrefixOf cs || ['<', '='].isPrefixOf cs || ['<', '!'].isPrefixOf cs

def readGroupStart (verbose : Bool) (names : List String) (cs : List Char) :
    Reading PatternError GroupStart :=
  match skip verbose cs with
  | '?' :: rest =>
    if isLookAround rest then .error .unsupportedLookAround
    else if ['P', '<'].isPrefixOf rest then readNewName names (rest.drop 2)
    else if ['<'].isPrefixOf rest then readNewName names (rest.drop 1)
    else readGroupFlags rest
  | rest => .ok (.capture none, rest)

/-! ## The rest is an end of what was there -/

open Reading

theorem readFlags_within (negated dangling : Bool) (changes : FlagChanges) (cs : List Char) :
    (readFlags negated dangling changes cs).Within cs := by
  induction cs generalizing negated dangling changes with
  | nil => exact .error _
  | cons c cs ih =>
    have hcs : cs <:+ c :: cs := List.suffix_cons c cs
    rw [readFlags]
    split
    · split
      · exact .error _
      · exact .ok _ hcs
    split
    · split
      · exact .error _
      · exact (ih _ _ _).trans hcs
    split
    · exact .error _
    · split
      · exact .error _
      · exact (ih _ _ _).trans hcs

theorem readGroupName_within (first : Bool) (cs : List Char) :
    (readGroupName first cs).Within cs := by
  induction cs generalizing first with
  | nil => exact .error _
  | cons c cs ih =>
    rw [readGroupName]
    split
    · exact .ok _ (List.suffix_cons c cs)
    split
    · exact ((ih _).convert _).cons c
    · exact .error _

theorem readNewName_within (names : List String) (cs : List Char) :
    (readNewName names cs).Within cs :=
  (readGroupName_within _ _).refine _

theorem readGroupFlags_within (cs : List Char) : (readGroupFlags cs).Within cs := by
  rw [readGroupFlags]
  split
  · exact .error _
  · exact (readFlags_within _ _ _ _).refine _

theorem readGroupStart_within (verbose : Bool) (names : List String) (cs : List Char) :
    (readGroupStart verbose names cs).Within cs := by
  rw [readGroupStart]
  split
  · next rest h =>
    refine Within.trans ?_ (h ▸ skip_suffix verbose cs)
    refine Within.cons ?_ '?'
    split
    · exact .error _
    split
    · exact (readNewName_within _ _).trans (List.drop_suffix _ _)
    split
    · exact (readNewName_within _ _).trans (List.drop_suffix _ _)
    · exact readGroupFlags_within _
  · exact .ok _ (skip_suffix _ _)

end Exemplar.Pattern
