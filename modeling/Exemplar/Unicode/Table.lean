/-!
# Tables of code points

A property of characters is given by the code points that have it, as ranges in
ascending order. Long tables are kept as text, `first-last` or a single code
point in hexadecimal, separated by blanks, and are read when they are used.
-/

namespace Exemplar.Unicode

/-- A set of code points: the first and last member of each range, ascending. -/
abbrev CodePoints := List (Nat × Nat)

def hexDigitValue (c : Char) : Nat :=
  if c.isDigit then c.toNat - '0'.toNat else c.toNat - 'a'.toNat + 10

def ofHex (text : String) : Nat :=
  text.toList.foldl (fun n c => 16 * n + hexDigitValue c) 0

namespace CodePoints

def words (text : String) : List String :=
  ((text.splitOn "\n").flatMap (·.splitOn " ")).filter (· ≠ "")

def ofText (text : String) : CodePoints :=
  (words text).map fun range =>
    match range.splitOn "-" with
    | [first, last] => (ofHex first, ofHex last)
    | _ => (ofHex range, ofHex range)

def has (s : CodePoints) (c : Char) : Bool :=
  s.any fun range => range.1 ≤ c.toNat && c.toNat ≤ range.2

/-- Put ranges together where they overlap or touch, if they start in ascending
order. -/
def join : CodePoints → CodePoints
  | (a, b) :: (c, d) :: rest =>
    if c ≤ b + 1 then join ((a, max b d) :: rest) else (a, b) :: join ((c, d) :: rest)
  | ranges => ranges
termination_by ranges => ranges.length

def union (sets : List CodePoints) : CodePoints :=
  join (sets.flatten.mergeSort fun r s => r.1 ≤ s.1)

/-- The code points of `s` that are not in `t`, if the ranges of both ascend. -/
def diff : (s t : CodePoints) → CodePoints
  | [], _ => []
  | s, [] => s
  | (a, b) :: s, (c, d) :: t =>
    if b < c then (a, b) :: diff s ((c, d) :: t)
    else if d < a then diff ((a, b) :: s) t
    else
      (if a < c then [(a, c - 1)] else []) ++
        if d < b then diff ((d + 1, b) :: s) t else diff s ((c, d) :: t)
termination_by s t => s.length + t.length

def inter (s t : CodePoints) : CodePoints := s.diff (s.diff t)

end CodePoints

/-- Where a set of code points comes from. -/
inductive Source where
  | text (table : String)
  | ranges (points : CodePoints)

def Source.points : Source → CodePoints
  | .text table => CodePoints.ofText table
  | .ranges points => points

def lookup? (table : List (List String × Source)) (name : String) : Option CodePoints :=
  (table.find? (·.1.contains name)).map (·.2.points)

end Exemplar.Unicode
