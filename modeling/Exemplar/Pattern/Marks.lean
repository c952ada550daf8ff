/-!
# Marked positions

A text of `n` characters has `n + 1` positions, and a set of positions is kept as
the list of its members, the last position first. Everything that a pattern does
to positions is done to all of them at once: a character moves every position
that it admits one on, a choice puts the positions of its branches together, and
a repetition goes on until no new one appears.
-/

namespace Exemplar.Pattern

/-- Positions of a text, the last first. -/
abbrev Marks := List Nat

namespace Marks

def all (text : Array Char) : Marks := (List.range (text.size + 1)).reverse

def union : (ms ns : Marks) → Marks
  | [], ns => ns
  | ms, [] => ms
  | m :: ms, n :: ns =>
    if n < m then m :: union ms (n :: ns)
    else if m < n then n :: union (m :: ms) ns
    else m :: union ms ns
termination_by ms ns => ms.length + ns.length

def minus : (ms ns : Marks) → Marks
  | [], _ => []
  | ms, [] => ms
  | m :: ms, n :: ns =>
    if n < m then m :: minus ms (n :: ns)
    else if m < n then minus (m :: ms) ns
    else minus ms ns
termination_by ms ns => ms.length + ns.length

/-- Move the positions in front of characters that `p` admits behind them. -/
def advance (p : Char → Bool) (text : Array Char) (ms : Marks) : Marks :=
  (ms.filter fun i => text[i]?.any p).map (· + 1)

def charBefore? (text : Array Char) : Nat → Option Char
  | 0 => none
  | i + 1 => text[i]?

/-- Keep the positions whose surroundings satisfy `p`. -/
def restrict (p : Option Char → Option Char → Bool) (text : Array Char) (ms : Marks) : Marks :=
  ms.filter fun i => p (charBefore? text i) text[i]?

/-- Apply `step` a number of times. Nothing comes of no positions. -/
def iterate (step : Marks → Marks) : Nat → Marks → Marks
  | 0, ms => ms
  | n + 1, ms => if ms.isEmpty then ms else iterate step n (step ms)

/-- Apply `step` up to a number of times and put all the results together. Only
the positions that are new go through the next step. -/
def spread (step : Marks → Marks) : Nat → Marks → Marks → Marks
  | 0, reached, _ => reached
  | n + 1, reached, new =>
    let next := (step new).minus reached
    if next.isEmpty then reached else spread step n (reached.union next) next

theorem mem_all {text : Array Char} {i : Nat} : i ∈ all text ↔ i ≤ text.size := by
  rw [all, List.mem_reverse, List.mem_range, Nat.lt_succ_iff]

theorem mem_union {ms ns : Marks} {i : Nat} : i ∈ union ms ns ↔ i ∈ ms ∨ i ∈ ns := by
  fun_induction union ms ns with
  | case1 => simp
  | case2 => simp
  | case3 m ms n ns _ ih => simp [ih, or_assoc]
  | case4 m ms n ns _ _ ih =>
    rw [List.mem_cons, ih, List.mem_cons (l := ns)]
    exact or_left_comm
  | case5 m ms n ns h₁ h₂ ih =>
    obtain rfl : m = n := by omega
    simp only [List.mem_cons, ih]
    constructor
    · rintro (h | h | h) <;> simp [h]
    · rintro ((h | h) | h | h) <;> simp [h]

theorem mem_of_mem_minus {ms ns : Marks} {i : Nat} (h : i ∈ minus ms ns) : i ∈ ms := by
  fun_induction minus ms ns with
  | case1 => exact h
  | case2 => exact h
  | case3 m ms n ns _ ih =>
    rcases List.mem_cons.1 h with rfl | h
    · exact List.mem_cons_self
    · exact List.mem_cons_of_mem _ (ih h)
  | case4 m ms n ns _ _ ih => exact ih h
  | case5 m ms n ns _ _ ih => exact List.mem_cons_of_mem _ (ih h)

theorem mem_minus_of_mem {ms ns : Marks} {i : Nat} (hm : i ∈ ms) (hn : i ∉ ns) :
    i ∈ minus ms ns := by
  fun_induction minus ms ns with
  | case1 => exact hm
  | case2 => exact hm
  | case3 m ms n ns _ ih =>
    rcases List.mem_cons.1 hm with rfl | hm
    · exact List.mem_cons_self
    · exact List.mem_cons_of_mem _ (ih hm hn)
  | case4 m ms n ns _ _ ih => exact ih hm fun h => hn (List.mem_cons_of_mem _ h)
  | case5 m ms n ns h₁ h₂ ih =>
    obtain rfl : m = n := by omega
    rcases List.mem_cons.1 hm with rfl | hm
    · exact absurd List.mem_cons_self hn
    · exact ih hm fun h => hn (List.mem_cons_of_mem _ h)

/-- A position is reached exactly if the one in front of it is there and the
character between them is admitted. -/
theorem succ_mem_advance {p : Char → Bool} {text : Array Char} {ms : Marks} {i : Nat} :
    i + 1 ∈ advance p text ms ↔ i ∈ ms ∧ text[i]?.any p := by
  simp [advance]

theorem zero_not_mem_advance {p : Char → Bool} {text : Array Char} {ms : Marks} :
    0 ∉ advance p text ms := by
  simp [advance]

theorem mem_restrict {p : Option Char → Option Char → Bool} {text : Array Char} {ms : Marks}
    {i : Nat} : i ∈ restrict p text ms ↔ i ∈ ms ∧ p (charBefore? text i) text[i]? := by
  simp [restrict]

end Marks

end Exemplar.Pattern
