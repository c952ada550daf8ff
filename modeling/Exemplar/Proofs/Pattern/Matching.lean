import Exemplar.Pattern.Expr.Matching

/-!
# What an expression describes

`e.Matches text i k` says that an expression describes the part of a text between
two positions. It is said by recursion on the expression, for one start and one
end, with a number of repetitions that is simply there. Conditions on positions
look at the whole text and not at the part.

`Expr.run` moves many positions at once, so a function on positions is compared with
a relation: it `Moves` them as the relation says. Functions that do are put together
to functions that do, and only a repetition is not of this kind. It stops once
nothing new is reached, and without an upper bound it makes no more steps than there
are characters, so it has to be known that an expression goes forward in the text.
-/

namespace Exemplar.Pattern

/-- A number of steps of a relation between positions. -/
def Repeated (r : Nat → Nat → Prop) : Nat → Nat → Nat → Prop
  | 0, i, k => k = i
  | n + 1, i, k => ∃ j, r i j ∧ Repeated r n j k

namespace Expr

mutual

/-- The expression describes the text between two positions. Bounds in the wrong
order, which no pattern has, come to the lower one. -/
def Matches (text : Array Char) : Expr → Nat → Nat → Prop
  | .empty, i, k => k = i
  | .literal cs, i, k => cs <+: text.toList.drop i ∧ k = i + cs.length
  | .cls set _, i, k => text[i]?.any set.has ∧ k = i + 1
  | .look l, i, k => l.holds (Marks.charBefore? text i) text[i]? ∧ k = i
  | .repetition min max _ e, i, k =>
    ∃ n, min ≤ n ∧ (n = min ∨ ∀ m ∈ max, n ≤ m) ∧ Repeated (Matches text e) n i k
  | .capture _ _ e, i, k => Matches text e i k
  | .concat es, i, k => MatchesAll text es i k
  | .alternation es, i, k => MatchesAny text es i k

def MatchesAll (text : Array Char) : List Expr → Nat → Nat → Prop
  | [], i, k => k = i
  | e :: es, i, k => ∃ j, Matches text e i j ∧ MatchesAll text es j k

def MatchesAny (text : Array Char) : List Expr → Nat → Nat → Prop
  | [], _, _ => False
  | e :: es, i, k => Matches text e i k ∨ MatchesAny text es i k

end

end Expr

/-! ## Repetitions of a relation -/

namespace Repeated

variable {r : Nat → Nat → Prop} {m n i j k size : Nat}

theorem add : Repeated r (m + n) i k ↔ ∃ j, Repeated r m i j ∧ Repeated r n j k := by
  induction m generalizing i with
  | zero => simp [Repeated]
  | succ m ih =>
      rw [Nat.succ_add]
      simp only [Repeated, ih]
      constructor
      · rintro ⟨j, hj, l, hl, hk⟩
        exact ⟨l, ⟨j, hj, hl⟩, hk⟩
      · rintro ⟨l, ⟨j, hj, hl⟩, hk⟩
        exact ⟨j, hj, l, hl, hk⟩

theorem of_closed {P : Nat → Prop} (hP : ∀ i, P i → ∀ k, r i k → P k) (hi : P i)
    (h : Repeated r n i k) : P k := by
  induction n generalizing i with
  | zero => exact (show k = i from h) ▸ hi
  | succ n ih =>
      obtain ⟨j, hij, hjk⟩ := h
      exact ih (hP i hi j hij) hjk

/-- A relation between positions of a text of some size leads forward, if anywhere. -/
def Forward (size : Nat) (r : Nat → Nat → Prop) : Prop :=
  ∀ i k, r i k → k = i ∨ (i < k ∧ k ≤ size)

theorem forward (hr : Forward size r) (n : Nat) : Forward size (Repeated r n) := by
  intro i k h
  refine h.of_closed (P := fun k => k = i ∨ (i < k ∧ k ≤ size)) ?_ (.inl rfl)
  intro j hj k hjk
  have hk := hr j k hjk
  omega

/-- What is reached at all is reached in as many steps as there are characters,
since steps that stay may be left out. -/
theorem exists_le (hr : Forward size r) (h : Repeated r n i k) :
    ∃ m, m ≤ n ∧ m ≤ size - i ∧ Repeated r m i k := by
  induction n generalizing i with
  | zero => exact ⟨0, Nat.le_refl 0, Nat.zero_le _, h⟩
  | succ n ih =>
      obtain ⟨j, hj, h⟩ := h
      obtain ⟨m, hmn, hm, h⟩ := ih h
      rcases hr i j hj with rfl | ⟨hij, hjs⟩
      · exact ⟨m, Nat.le_succ_of_le hmn, hm, h⟩
      · exact ⟨m + 1, Nat.succ_le_succ hmn, by omega, j, hj, h⟩

end Repeated

/-! ## Functions that move positions as a relation says -/

namespace Marks

/-- A function leads from some positions to those that a relation leads to. -/
def Moves (step : Marks → Marks) (r : Nat → Nat → Prop) : Prop :=
  ∀ ms k, k ∈ step ms ↔ ∃ i ∈ ms, r i k

theorem moves_advance (p : Char → Bool) (text : Array Char) :
    Moves (advance p text) fun i k => text[i]?.any p ∧ k = i + 1 := by
  intro ms k
  cases k with
  | zero => simp [zero_not_mem_advance]
  | succ k =>
      rw [succ_mem_advance]
      constructor
      · rintro ⟨hk, hp⟩
        exact ⟨k, hk, hp, rfl⟩
      · rintro ⟨i, hi, hp, hik⟩
        obtain rfl : k = i := Nat.succ.inj hik
        exact ⟨hi, hp⟩

theorem moves_restrict (p : Option Char → Option Char → Bool) (text : Array Char) :
    Moves (restrict p text) fun i k => p (charBefore? text i) text[i]? ∧ k = i := by
  intro ms k
  rw [mem_restrict]
  constructor
  · rintro ⟨hk, hp⟩
    exact ⟨k, hk, hp, rfl⟩
  · rintro ⟨i, hi, hp, rfl⟩
    exact ⟨hi, hp⟩

namespace Moves

variable {step step' : Marks → Marks} {r r' : Nat → Nat → Prop}

theorem id : Moves (fun ms => ms) fun i k => k = i := by
  intro ms k
  simp

theorem comp (h : Moves step r) (h' : Moves step' r') :
    Moves (fun ms => step' (step ms)) fun i k => ∃ j, r i j ∧ r' j k := by
  intro ms k
  simp only [h' _ k, h ms]
  constructor
  · rintro ⟨j, ⟨i, hi, hij⟩, hjk⟩
    exact ⟨i, hi, j, hij, hjk⟩
  · rintro ⟨i, hi, j, hij, hjk⟩
    exact ⟨j, ⟨i, hi, hij⟩, hjk⟩

theorem union (h : Moves step r) (h' : Moves step' r') :
    Moves (fun ms => (step ms).union (step' ms)) fun i k => r i k ∨ r' i k := by
  intro ms k
  simp only [mem_union, h ms k, h' ms k, ← exists_or, ← and_or_left]

theorem congr (h : Moves step r) (hr : ∀ i k, r i k ↔ r' i k) : Moves step r' := by
  intro ms k
  simp only [h ms k, hr]

theorem iterate (h : Moves step r) (n : Nat) : Moves (Marks.iterate step n) (Repeated r n) := by
  induction n with
  | zero => exact id
  | succ n ih =>
      intro ms k
      rw [Marks.iterate]
      split
      · next hms => simp [List.isEmpty_iff.1 hms]
      · exact h.comp ih ms k

theorem mem_spread_of_mem {n : Nat} {reached new : Marks} {i : Nat} (hi : i ∈ reached) :
    i ∈ Marks.spread step n reached new := by
  induction n generalizing reached new with
  | zero => exact hi
  | succ n ih =>
      rw [Marks.spread]
      split
      · exact hi
      · exact ih (mem_union.2 (.inl hi))

theorem of_mem_spread (h : Moves step r) {n : Nat} {reached new : Marks} {k : Nat}
    (hk : k ∈ Marks.spread step n reached new) :
    k ∈ reached ∨ ∃ m ≤ n, ∃ i ∈ new, Repeated r m i k := by
  induction n generalizing reached new with
  | zero => exact .inl hk
  | succ n ih =>
      rw [Marks.spread] at hk
      split at hk
      · exact .inl hk
      · have hnext : ∀ j ∈ (step new).minus reached, ∃ i ∈ new, r i j := fun j hj =>
          (h new j).1 (mem_of_mem_minus hj)
        rcases ih hk with hk | ⟨m, hm, j, hj, hjk⟩
        · rcases mem_union.1 hk with hk | hk
          · exact .inl hk
          · obtain ⟨i, hi, hik⟩ := hnext k hk
            exact .inr ⟨1, Nat.succ_le_succ (Nat.zero_le n), i, hi, k, hik, rfl⟩
        · obtain ⟨i, hi, hij⟩ := hnext j hj
          exact .inr ⟨m + 1, Nat.succ_le_succ hm, i, hi, j, hij, hjk⟩

/-- Whatever some steps lead to is reached. From what has been reached earlier, a
step leads to nothing new, and this is what remains true when new positions are
put to those that have been reached. -/
theorem mem_spread (h : Moves step r) {n m : Nat} {reached new : Marks} {i k : Nat}
    (hold : ∀ x ∈ reached, x ∉ new → ∀ y, r x y → y ∈ reached) (hi : i ∈ reached)
    (hm : m ≤ n) (hk : Repeated r m i k) : k ∈ Marks.spread step n reached new := by
  induction n generalizing reached new m i with
  | zero =>
      obtain rfl := Nat.le_zero.1 hm
      obtain rfl : k = i := hk
      exact hi
  | succ n ih =>
      have hstep : ∀ x ∈ reached, ∀ y, r x y → y ∈ reached ∨ y ∈ (step new).minus reached := by
        intro x hx y hxy
        by_cases hnew : x ∈ new
        · by_cases hy : y ∈ reached
          · exact .inl hy
          · exact .inr (mem_minus_of_mem ((h new y).2 ⟨x, hnew, hxy⟩) hy)
        · exact .inl (hold x hx hnew y hxy)
      cases m with
      | zero =>
          obtain rfl : k = i := hk
          exact mem_spread_of_mem hi
      | succ m =>
          rw [Marks.spread]
          split
          -- Nothing new is left, so no number of steps leads out of what has been reached.
          · next hnext =>
            have hclosed : ∀ x ∈ reached, ∀ y, r x y → y ∈ reached := fun x hx y hxy =>
              (hstep x hx y hxy).resolve_right (by simp [List.isEmpty_iff.1 hnext])
            exact hk.of_closed hclosed hi
          · obtain ⟨j, hij, hjk⟩ := hk
            refine ih ?_ (mem_union.2 (hstep i hi j hij)) (Nat.le_of_succ_le_succ hm) hjk
            intro x hx hnew y hxy
            have hx' : x ∈ reached := (mem_union.1 hx).resolve_right hnew
            exact mem_union.2 (hstep x hx' y hxy)

theorem spread (h : Moves step r) (n : Nat) :
    Moves (fun ms => Marks.spread step n ms ms) fun i k => ∃ m ≤ n, Repeated r m i k := by
  intro ms k
  constructor
  · intro hk
    rcases h.of_mem_spread hk with hk | ⟨m, hm, i, hi, hik⟩
    · exact ⟨k, hk, 0, Nat.zero_le n, rfl⟩
    · exact ⟨i, hi, m, hm, hik⟩
  · rintro ⟨i, hi, m, hm, hik⟩
    exact h.mem_spread (fun x hx hnew => absurd hx hnew) hi hm hik

/-- A repetition: first as often as it has to be, and then as often as it may be. -/
theorem repetition (h : Moves step r) {size : Nat} (hr : Repeated.Forward size r) (min : Nat)
    (max : Option Nat) :
    Moves (fun ms =>
        let ms := Marks.iterate step min ms
        Marks.spread step ((max.getD (min + size + 1)) - min) ms ms) fun i k =>
      ∃ n, min ≤ n ∧ (n = min ∨ ∀ m ∈ max, n ≤ m) ∧ Repeated r n i k := by
  refine ((h.iterate min).comp (h.spread _)).congr fun i k => ?_
  constructor
  · rintro ⟨j, hij, m, hm, hjk⟩
    refine ⟨min + m, Nat.le_add_right _ _, ?_, Repeated.add.2 ⟨j, hij, hjk⟩⟩
    cases max with
    | none => exact .inr (by simp)
    | some max =>
        rw [Option.getD_some] at hm
        rcases Nat.eq_zero_or_pos m with rfl | hpos
        · exact .inl rfl
        · refine .inr ?_
          rintro _ ⟨⟩
          omega
  · rintro ⟨n, hmin, hmax, hik⟩
    obtain ⟨m, rfl⟩ := Nat.exists_eq_add_of_le hmin
    obtain ⟨j, hij, hjk⟩ := Repeated.add.1 hik
    cases max with
    | none =>
        -- Without a bound the loop ends with the text, so the steps are cut down to its size.
        obtain ⟨m', -, hm', hjk⟩ := hjk.exists_le hr
        refine ⟨j, hij, m', ?_, hjk⟩
        rw [Option.getD_none]
        omega
    | some max =>
        refine ⟨j, hij, m, ?_, hjk⟩
        rw [Option.getD_some]
        rcases hmax with hmax | hmax
        · omega
        · have := hmax max rfl
          omega

end Moves

end Marks

/-! ## Expressions -/

namespace Expr

variable {text : Array Char} {i k : Nat}

theorem cons_prefix_drop {c : Char} {cs : List Char} :
    c :: cs <+: text.toList.drop i ↔ text[i]?.any (· == c) ∧ cs <+: text.toList.drop (i + 1) := by
  by_cases hi : i < text.size
  · rw [List.drop_eq_getElem_cons (by simpa using hi), List.cons_prefix_cons]
    simp [hi, @eq_comm _ c]
  · rw [List.drop_eq_nil_of_le (by simpa using hi)]
    simp [Array.getElem?_eq_none (Nat.le_of_not_lt hi)]

theorem matches_literal_cons {c : Char} {cs : List Char} :
    Matches text (.literal (c :: cs)) i k ↔
      text[i]?.any (· == c) ∧ Matches text (.literal cs) (i + 1) k := by
  rw [Matches, Matches, cons_prefix_drop, List.length_cons, and_assoc,
    Nat.add_assoc, Nat.add_comm 1]

theorem forward_literal (cs : List Char) :
    Repeated.Forward text.size fun i k => cs <+: text.toList.drop i ∧ k = i + cs.length := by
  rintro i k ⟨hcs, rfl⟩
  have hlen := hcs.length_le
  have hsize : text.toList.length = text.size := rfl
  rw [List.length_drop, hsize] at hlen
  omega

theorem forward_char (p : Char → Bool) :
    Repeated.Forward text.size fun i k => text[i]?.any p ∧ k = i + 1 := by
  rintro i k ⟨hp, rfl⟩
  have hi : i < text.size := by
    refine Nat.lt_of_not_le fun hge => ?_
    simp [Array.getElem?_eq_none hge] at hp
  omega

mutual

theorem forward_matches (text : Array Char) :
    (e : Expr) → Repeated.Forward text.size (Matches text e)
  | .empty => fun i k h => .inl h
  | .literal cs => forward_literal cs
  | .cls set _ => forward_char set.has
  | .look l => fun i k h => .inl h.2
  | .repetition min max _ e => by
      rintro i k ⟨n, -, -, h⟩
      exact Repeated.forward (forward_matches text e) n i k h
  | .capture _ _ e => forward_matches text e
  | .concat es => forward_matchesAll text es
  | .alternation es => forward_matchesAny text es

theorem forward_matchesAll (text : Array Char) :
    (es : List Expr) → Repeated.Forward text.size (MatchesAll text es)
  | [] => fun i k h => .inl h
  | e :: es => by
      rintro i k ⟨j, hj, hk⟩
      have hij := forward_matches text e i j hj
      have hjk := forward_matchesAll text es j k hk
      omega

theorem forward_matchesAny (text : Array Char) :
    (es : List Expr) → Repeated.Forward text.size (MatchesAny text es)
  | [] => fun i k h => h.elim
  | e :: es => by
      rintro i k (h | h)
      · exact forward_matches text e i k h
      · exact forward_matchesAny text es i k h

end

theorem moves_literal (text : Array Char) (cs : List Char) :
    Marks.Moves (fun ms => cs.foldl (fun ms c => Marks.advance (· == c) text ms) ms)
      (Matches text (.literal cs)) := by
  induction cs with
  | nil => exact Marks.Moves.id.congr fun i k => by simp [Matches]
  | cons c cs ih =>
      refine ((Marks.moves_advance (· == c) text).comp ih).congr fun i k => ?_
      rw [matches_literal_cons]
      constructor
      · rintro ⟨j, ⟨hc, rfl⟩, hk⟩
        exact ⟨hc, hk⟩
      · rintro ⟨hc, hk⟩
        exact ⟨i + 1, ⟨hc, rfl⟩, hk⟩

mutual

/-- An expression moves positions as it describes the text. -/
theorem moves_run (text : Array Char) : (e : Expr) → Marks.Moves (run text e) (Matches text e)
  | .empty => .id
  | .literal cs => moves_literal text cs
  | .cls set _ => Marks.moves_advance set.has text
  | .look l => Marks.moves_restrict l.holds text
  | .repetition min max _ e => (moves_run text e).repetition (forward_matches text e) min max
  | .capture _ _ e => moves_run text e
  | .concat es => moves_runAll text es
  | .alternation es => moves_runAny text es

theorem moves_runAll (text : Array Char) :
    (es : List Expr) → Marks.Moves (runAll text es) (MatchesAll text es)
  | [] => .id
  | e :: es => (moves_run text e).comp (moves_runAll text es)

theorem moves_runAny (text : Array Char) :
    (es : List Expr) → Marks.Moves (runAny text es) (MatchesAny text es)
  | [] => by
      intro ms k
      simp [runAny, MatchesAny]
  | e :: es => (moves_run text e).union (moves_runAny text es)

end

/-- A text is matched exactly if the expression describes some part of it. -/
theorem isMatch_iff {e : Expr} :
    e.isMatch text = true ↔ ∃ i k, i ≤ text.size ∧ e.Matches text i k := by
  rw [isMatch, Bool.not_eq_true', List.isEmpty_eq_false_iff_exists_mem]
  simp only [moves_run text e _ _, Marks.mem_all]
  constructor
  · rintro ⟨k, i, hi, h⟩
    exact ⟨i, k, hi, h⟩
  · rintro ⟨i, k, hi, h⟩
    exact ⟨k, i, hi, h⟩

/-! ## Sequences -/

theorem matchesAll_append {es fs : List Expr} :
    MatchesAll text (es ++ fs) i k ↔ ∃ j, MatchesAll text es i j ∧ MatchesAll text fs j k := by
  induction es generalizing i with
  | nil => simp [MatchesAll]
  | cons e es ih =>
      simp only [List.cons_append, MatchesAll, ih]
      constructor
      · rintro ⟨j, hj, l, hl, hk⟩
        exact ⟨l, ⟨j, hj, hl⟩, hk⟩
      · rintro ⟨l, ⟨j, hj, hl⟩, hk⟩
        exact ⟨j, hj, l, hl, hk⟩

theorem matchesAll_singleton {e : Expr} : MatchesAll text [e] i k ↔ e.Matches text i k := by
  simp [MatchesAll]

theorem matchesAll_parts {e : Expr} : MatchesAll text e.parts i k ↔ e.Matches text i k := by
  cases e with
  | empty | concat => rfl
  | literal | cls | look | repetition | capture | alternation => exact matchesAll_singleton

theorem matchesAll_flatMap_parts {es : List Expr} :
    MatchesAll text (es.flatMap parts) i k ↔ MatchesAll text es i k := by
  induction es generalizing i with
  | nil => rfl
  | cons e es ih =>
      simp only [List.flatMap_cons, matchesAll_append, matchesAll_parts, ih, MatchesAll]

theorem matches_literal_append {cs ds : List Char} :
    Matches text (.literal (cs ++ ds)) i k ↔
      ∃ j, Matches text (.literal cs) i j ∧ Matches text (.literal ds) j k := by
  induction cs generalizing i with
  | nil => simp [Matches]
  | cons c cs ih =>
      rw [List.cons_append]
      simp only [matches_literal_cons, ih]
      constructor
      · rintro ⟨hc, j, hj, hk⟩
        exact ⟨j, ⟨hc, hj⟩, hk⟩
      · rintro ⟨j, ⟨hc, hj⟩, hk⟩
        exact ⟨hc, j, hj, hk⟩

theorem matchesAll_prepend {e : Expr} {es : List Expr} :
    MatchesAll text (prepend e es) i k ↔ ∃ j, e.Matches text i j ∧ MatchesAll text es j k := by
  unfold prepend
  split
  · simp only [MatchesAll, matches_literal_append]
    constructor
    · rintro ⟨l, ⟨j, hj, hl⟩, hk⟩
      exact ⟨j, hj, l, hl, hk⟩
    · rintro ⟨j, hj, l, hl, hk⟩
      exact ⟨l, ⟨j, hj, hl⟩, hk⟩
  · rfl

theorem matchesAll_foldr_prepend {es : List Expr} :
    MatchesAll text (es.foldr prepend []) i k ↔ MatchesAll text es i k := by
  induction es generalizing i with
  | nil => rfl
  | cons e es ih => simp only [List.foldr_cons, matchesAll_prepend, ih, MatchesAll]

/-- Expressions that are put into one, with as few parts as possible, describe what
they describe one after the other. -/
theorem matches_sequence {es : List Expr} :
    (sequence es).Matches text i k ↔ MatchesAll text es i k := by
  rw [← matchesAll_flatMap_parts, ← matchesAll_foldr_prepend, sequence]
  split
  · next h => rw [h]; rfl
  · next h => rw [h, matchesAll_singleton]
  · rfl

end Expr

end Exemplar.Pattern
