import Exemplar.Unicode.Blank

/-!
# Blanks in verbose patterns

Where a pattern is verbose, blank space and comments between its parts do not
count. A comment runs from `#` to the end of the line.
-/

namespace Exemplar.Pattern

/-- Drop blank space and comments from the front, from inside of a comment if
`comment` holds. -/
def dropBlank : (comment : Bool) → List Char → List Char
  | _, [] => []
  | true, c :: cs => dropBlank (c ≠ '\n') cs
  | false, c :: cs =>
    if Unicode.isBlank c then dropBlank false cs
    else if c = '#' then dropBlank true cs
    else c :: cs

/-- Drop what does not count from the front, which is nothing unless the pattern
is verbose. -/
def skip (verbose : Bool) (cs : List Char) : List Char :=
  if verbose then dropBlank false cs else cs

/-- The next character that counts, for the range operator of a class: blanks
are passed over, and so is the sign of one comment. -/
def peekBlank : (comment : Bool) → List Char → Option Char
  | _, [] => none
  | comment, c :: cs =>
    if Unicode.isBlank c then peekBlank comment cs
    else if !comment && c = '#' then peekBlank true cs
    else some c

def peek (verbose : Bool) (cs : List Char) : Option Char :=
  if verbose then peekBlank false cs else cs.head?

theorem dropBlank_suffix (comment : Bool) (cs : List Char) : dropBlank comment cs <:+ cs := by
  induction cs generalizing comment with
  | nil => cases comment <;> exact List.suffix_refl _
  | cons c cs ih =>
    cases comment with
    | true => exact (ih _).trans (List.suffix_cons c cs)
    | false =>
      rw [dropBlank]
      split
      · exact (ih _).trans (List.suffix_cons c cs)
      · split
        · exact (ih _).trans (List.suffix_cons c cs)
        · exact List.suffix_refl _

theorem skip_suffix (verbose : Bool) (cs : List Char) : skip verbose cs <:+ cs := by
  rw [skip]
  split
  · exact dropBlank_suffix _ _
  · exact List.suffix_refl _

theorem length_skip_le (verbose : Bool) (cs : List Char) :
    (skip verbose cs).length ≤ cs.length :=
  (skip_suffix verbose cs).length_le

end Exemplar.Pattern
