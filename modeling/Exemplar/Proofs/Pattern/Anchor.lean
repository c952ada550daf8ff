import Exemplar.Proofs.Pattern.Matching
import Exemplar.Proofs.Pattern.Trailing

/-!
# Patterns for whole texts

A pattern is put between the ends of the text by its letters, without looking at
what they mean, and only then read. This comes to what it is meant for, whatever
the letters are: if the pattern can be read by itself, then between the ends it is
read as one group with the very term that it is by itself, or it cannot be read
there at all. The reasons for the latter are few: a comment at the end of the
pattern swallows the end of the group; the pattern is nested as deeply as a pattern
may be, and the ends make it too deep; or the automaton is too large.

That the pattern is read in the same way inside of the group is a relation between
two runs of the reader. `Progress.inside` is what they have in common. The groups
that are open around the pattern are touched by nothing but a closing parenthesis
too many, and that is refused in the first run.
-/

namespace Exemplar.Pattern

namespace Progress

variable {cs ds : List Char} (g : OpenGroup)

def inside (p : Progress) : Progress := { p with groups := p.groups ++ [g] }

/-- What the first reading leads to, the second one leads to inside of a group. -/
def LeadsInside (r r' : Reading PatternError Progress) : Prop :=
  ∀ q rest, r = .ok (q, rest) → ∃ rest', r' = .ok (q.inside g, rest') ∧ Trails rest rest'

namespace LeadsInside

variable {g} {r r' s s' : Reading PatternError Progress}

theorem error (e : PatternError) (r' : Reading PatternError Progress) :
    LeadsInside g (.error e) r' := nofun

theorem ok (p : Progress) (h : Trails cs ds) :
    LeadsInside g (.ok (p, cs)) (.ok (p.inside g, ds)) := by
  rintro _ _ ⟨⟩
  exact ⟨ds, rfl, h⟩

theorem convert {α : Type} {a a' : Reading PatternError α} {f f' : α → Progress}
    (h : Carries a a') (hf : ∀ x, f' x = (f x).inside g) :
    LeadsInside g (a.convert f) (a'.convert f') := by
  intro q rest hq
  cases a with
  | error e => cases hq
  | ok x =>
      obtain ⟨rest', rfl, ht⟩ := h x.1 x.2 rfl
      cases hq
      exact ⟨rest', by rw [← hf]; rfl, ht⟩

theorem ite {p : Prop} [Decidable p] (h : LeadsInside g r r') (h' : LeadsInside g s s') :
    LeadsInside g (if p then r else s) (if p then r' else s') := by
  split
  · exact h
  · exact h'

end LeadsInside

theorem start_inside (p : Progress) (s : GroupStart) :
    (p.inside g).start s = (p.start s).inside g := by
  cases s <;> rfl

theorem close_inside {p q : Progress} (h : p.close = .ok q) :
    (p.inside g).close = .ok (q.inside g) := by
  rw [close] at h
  cases hg : p.groups with
  | nil => simp [hg] at h
  | cons g' groups =>
      rw [hg] at h
      cases h
      simp [close, inside, hg]

theorem readRepetition_inside (p : Progress) {count count' : Reading PatternError Count}
    (h : Carries count count') :
    LeadsInside g (p.readRepetition count) ((p.inside g).readRepetition count') := by
  have hlast : (p.inside g).level.last? = p.level.last? := rfl
  rw [readRepetition, readRepetition, hlast]
  cases p.level.last? with
  | none => exact .error _ _
  | some x => exact .convert h fun _ => rfl

theorem readOperator_carries (min : Nat) (max : Option Nat) (h : Trails cs ds) :
    Carries (readOperator min max cs) (readOperator min max ds) := by
  rw [readOperator, readOperator]
  exact (readLazy_keeps h).elim fun _ _ _ hrest => .ok _ hrest

/-- One step inside of a group is the step that is made without it. -/
theorem step_inside (p : Progress) (c : Char) (h : Trails cs ds) :
    LeadsInside g (p.step c cs) ((p.inside g).step c ds) := by
  have operator (min : Nat) (max : Option Nat) :=
    readRepetition_inside g p (readOperator_carries min max h)
  refine .ite (.convert (readGroupStart_carries _ _ h) (start_inside g p)) <| .ite ?_ <|
    .ite (.ok _ h) <| .ite (.convert (readClass_carries _ h) fun _ => rfl) <|
    .ite (operator _ _) <| .ite (operator _ _) <| .ite (operator _ _) <|
    .ite (readRepetition_inside g p (readCount_carries _ h)) <|
    .ite (.convert (readEscape_carries _ h) fun _ => rfl) <| .ite (.ok _ h) <| .ite (.ok _ h) <|
    .ite (.ok _ h) (.ok _ h)
  cases hp : p.close with
  | error e => exact .error e _
  | ok q =>
      rw [close_inside g hp]
      exact .ok q h

theorem run_of_skip_eq_nil {p : Progress} (h : skip p.verbose cs = []) : p.run cs = p.finish := by
  rw [run]
  split
  · rfl
  · next hc => simp [h] at hc

theorem run_of_step {p q : Progress} {c : Char} {rest rest' : List Char}
    (hc : skip p.verbose cs = c :: rest) (hs : p.step c rest = .ok (q, rest')) :
    p.run cs = q.run rest' := by
  rw [run]
  split
  · next hnil => simp [hnil] at hc
  · next hcons =>
    obtain ⟨rfl, rfl⟩ := List.cons.inj (hcons.symm.trans hc)
    split
    · next he => simp [he] at hs
    · next he =>
      cases he.symm.trans hs
      rfl

/-- What is read to its end is read inside of a group up to the end of the group,
unless the end has been swallowed. -/
theorem run_inside {p : Progress} {t : Term} (h : Trails cs ds) (hrun : p.run cs = .ok t) :
    (p.inside g).run ds = .error .groupUnclosed ∨
      ∃ q : Progress, q.level = g.outer.push (g.kind.wrap t) ∧ q.groups = [] ∧
        q.verbose = g.verbose ∧ (p.inside g).run ds = q.run ['$'] := by
  fun_induction run p cs generalizing ds with
  | case1 p cs hnil =>
      rw [finish] at hrun
      split at hrun
      · next hgroups =>
        have ht := h.skip p.verbose
        rw [hnil] at ht
        cases hrun
        -- A comment at the end of the pattern swallows the ending, and the group stays open.
        rcases ht.nil_inv with hds | hds
        · refine .inl ((run_of_skip_eq_nil (p := p.inside g) hds).trans ?_)
          simp [finish, inside]
        · have hclose : (p.inside g).step ')' ['$'] = .ok ({ p with
              level := g.outer.push (g.kind.wrap p.level.term)
              groups := []
              verbose := g.verbose }, ['$']) := by
            rw [step, if_neg (by decide), if_pos rfl]
            simp [close, inside, List.isEmpty_iff.1 hgroups]
          exact .inr ⟨_, rfl, rfl, rfl, run_of_step (p := p.inside g) hds hclose⟩
      · cases hrun
  | case2 p cs c rest hc e hs => cases hrun
  | case3 p cs c rest hc q rest' hs ih =>
      have ht := h.skip p.verbose
      rw [hc] at ht
      obtain ⟨more, hds, ht⟩ := ht.cons_inv
      obtain ⟨more', hs', hr⟩ := step_inside g p c ht q rest' hs
      rw [run_of_step (p := p.inside g) hds hs']
      exact ih hr hrun

end Progress

def wholeGroup : OpenGroup := ⟨{ items := [.assertion .startLine] }, .plain [], false⟩

def Term.whole (t : Term) : Term :=
  .concat [.assertion .startLine, .group [] t, .assertion .endLine]

theorem run_anchor (pattern : List Char) :
    Progress.run {} (anchor pattern) =
      (({} : Progress).inside wholeGroup).run (pattern ++ ending) := by
  have hfirst : ({} : Progress).step '^' ('(' :: '?' :: ':' :: (pattern ++ ending)) =
      .ok (({} : Progress).push (.assertion .startLine), '(' :: '?' :: ':' :: (pattern ++ ending)) :=
    rfl
  have hgroup : (({} : Progress).push (.assertion .startLine)).step '('
      ('?' :: ':' :: (pattern ++ ending)) =
      .ok (({} : Progress).inside wholeGroup, pattern ++ ending) := rfl
  exact (Progress.run_of_step (p := {}) rfl hfirst).trans (Progress.run_of_step rfl hgroup)

theorem run_ending {q : Progress} {t : Term}
    (hlevel : q.level = wholeGroup.outer.push (wholeGroup.kind.wrap t)) (hgroups : q.groups = [])
    (hverbose : q.verbose = false) : q.run ['$'] = .ok t.whole := by
  have hskip : skip q.verbose ['$'] = ['$'] := by rw [hverbose]; rfl
  have hstep : q.step '$' [] = .ok (q.push (.assertion .endLine), []) := rfl
  have hend : skip (q.push (.assertion .endLine)).verbose [] = [] := by
    cases (q.push (.assertion .endLine)).verbose <;> rfl
  rw [Progress.run_of_step hskip hstep, Progress.run_of_skip_eq_nil hend]
  simp [Progress.finish, Progress.push, hgroups, hlevel, Level.push, Level.term, Level.branch,
    wholeGroup, GroupKind.wrap, Term.ofItems, Term.ofBranches, Term.whole]

/-- A pattern that can be read is read between the ends of the text as the same
term, or cannot be read there. -/
theorem parse_anchor {pattern : List Char} {t : Term} (h : Term.parse pattern = .ok t) :
    Term.parse (anchor pattern) = .error .groupUnclosed ∨
    Term.parse (anchor pattern) = .error (.nestLimitExceeded nestLimit) ∨
    Term.parse (anchor pattern) = .ok t.whole := by
  have hrun : Progress.run {} pattern = .ok t := by
    rw [Term.parse] at h
    split at h
    · cases h
    · next heq =>
      split at h
      · cases h
        exact heq
      · cases h
  rw [Term.parse, run_anchor]
  rcases Progress.run_inside wholeGroup (.more pattern) hrun with hwhole | ⟨q, hl, hg, hv, hwhole⟩
  · rw [hwhole]
    exact .inl rfl
  · rw [hwhole, run_ending hl hg hv]
    by_cases hdepth : t.whole.depth ≤ nestLimit
    · exact .inr (.inr (if_pos hdepth))
    · exact .inr (.inl (if_neg hdepth))

def Expr.whole (e : Expr) : Expr := .sequence [.look .start, e, .look .stop]

theorem toExpr_whole {t : Term} {e : Expr} {f : Flags} (h : t.toExpr {} = .ok (e, f)) :
    t.whole.toExpr {} = .ok (e.whole, {}) := by
  simp [Term.whole, Term.toExpr, Term.toExprs, Flags.setAll, Flags.assertionLook, Expr.whole, h]

theorem ofPattern_anchor {pattern : List Char} {e : Expr} (h : Expr.ofPattern pattern = .ok e) :
    Expr.ofPattern (anchor pattern) = .error .groupUnclosed ∨
    Expr.ofPattern (anchor pattern) = .error (.nestLimitExceeded nestLimit) ∨
    Expr.ofPattern (anchor pattern) = .ok e.whole := by
  rw [Expr.ofPattern] at h
  cases hparse : Term.parse pattern with
  | error err => simp [hparse] at h
  | ok t =>
      rw [hparse] at h
      cases hmeaning : t.toExpr {} with
      | error err => simp [hmeaning, Except.map] at h
      | ok x =>
          simp only [hmeaning] at h
          cases h
          rw [Expr.ofPattern]
          rcases parse_anchor hparse with hwhole | hwhole | hwhole
          · rw [hwhole]
            exact .inl rfl
          · rw [hwhole]
            exact .inr (.inl rfl)
          · rw [hwhole]
            simp only
            rw [toExpr_whole hmeaning]
            exact .inr (.inr rfl)

/-! ## Whole texts -/

theorem holds_start_iff {text : Array Char} {i : Nat} {behind : Option Char} (hi : i ≤ text.size) :
    Look.start.holds (Marks.charBefore? text i) behind = true ↔ i = 0 := by
  cases i with
  | zero => simp [Look.holds, Marks.charBefore?]
  | succ i => simp [Look.holds, Marks.charBefore?, Nat.lt_of_succ_le hi]

theorem holds_stop_iff {text : Array Char} {i : Nat} {front : Option Char} :
    Look.stop.holds front text[i]? = true ↔ text.size ≤ i := by
  simp [Look.holds]

/-- Between the ends, an expression matches a text if it describes all of it. -/
theorem isMatch_whole {e : Expr} {text : Array Char} :
    e.whole.isMatch text = true ↔ e.Matches text 0 text.size := by
  rw [Expr.isMatch_iff]
  simp only [Expr.whole, Expr.matches_sequence, Expr.MatchesAll, Expr.Matches]
  constructor
  · rintro ⟨i, j, hi, _, ⟨hstart, rfl⟩, _, hmatch, _, ⟨hstop, rfl⟩, rfl⟩
    obtain rfl := (holds_start_iff hi).1 hstart
    have hsize := holds_stop_iff.1 hstop
    have hforward := Expr.forward_matches text e 0 j hmatch
    obtain rfl : j = text.size := by omega
    exact hmatch
  · intro hmatch
    exact ⟨0, text.size, Nat.zero_le _,
      0, ⟨(holds_start_iff (Nat.zero_le _)).2 rfl, rfl⟩,
      text.size, hmatch,
      text.size, ⟨holds_stop_iff.2 (Nat.le_refl _), rfl⟩, rfl⟩

/-- What may be wrong, between the ends of the text, with a pattern that can be read
by itself. -/
def anchorErrors : List PatternError :=
  [.groupUnclosed, .nestLimitExceeded nestLimit, .tooLarge Automaton.Size.limit]

namespace Whole

variable {pattern : String}

theorem check_of_parse_eq_error {err : BuildError} (h : parse pattern = .error err)
    (text : String) : check pattern text = .error err := by
  rw [check, h]

theorem check_eq_ok_iff {w : Whole} (h : parse pattern = .ok w) (text : String) :
    check pattern text = .ok () ↔ w.matchesText text = true := by
  cases hw : w.matchesText text <;> simp [check, h, hw]

theorem parse_of_ofPattern_eq_error {err : PatternError}
    (h : Expr.ofPattern pattern.toList = .error err) :
    parse pattern = .error (.pattern pattern err) := by
  rw [parse, h]

/-- A pattern that can be read by itself is compiled between the ends of the text,
or refused for one of few reasons. -/
theorem parse_of_ofPattern_eq_ok {e : Expr} (h : Expr.ofPattern pattern.toList = .ok e) :
    (∃ err ∈ anchorErrors, parse pattern = .error (.pattern pattern err)) ∨
    parse pattern = .ok ⟨.ofList (anchor pattern.toList), e.whole⟩ := by
  rw [parse, h]
  rcases ofPattern_anchor h with hwhole | hwhole | hwhole
  · exact .inl ⟨.groupUnclosed, by simp [anchorErrors], by simp [hwhole]⟩
  · exact .inl ⟨.nestLimitExceeded nestLimit, by simp [anchorErrors], by simp [hwhole]⟩
  · by_cases hfits : e.whole.fits = true
    · exact .inr (by simp [hwhole, hfits])
    · exact .inl ⟨.tooLarge Automaton.Size.limit, by simp [anchorErrors], by simp [hwhole, hfits]⟩

/-- Anchors make a pattern describe whole texts, whatever it is made of. A pattern
that cannot be read by itself is refused. One that can be read is either refused,
for one of few reasons, or a text passes exactly if the expression of the pattern
describes it from its first position to its last. -/
theorem matches_whole_texts (pattern : String) :
    (∀ err, Expr.ofPattern pattern.toList = .error err →
      parse pattern = .error (.pattern pattern err) ∧
      ∀ text, check pattern text = .error (.pattern pattern err)) ∧
    (∀ e, Expr.ofPattern pattern.toList = .ok e →
      (∃ err ∈ anchorErrors, parse pattern = .error (.pattern pattern err) ∧
        ∀ text, check pattern text = .error (.pattern pattern err)) ∨
      ∃ w, parse pattern = .ok w ∧ ∀ text : String,
        (w.matchesText text = true ↔
          e.Matches text.toList.toArray 0 text.toList.length) ∧
        (check pattern text = .ok () ↔
          e.Matches text.toList.toArray 0 text.toList.length)) := by
  constructor
  · intro err h
    have hparse := parse_of_ofPattern_eq_error h
    exact ⟨hparse, check_of_parse_eq_error hparse⟩
  · intro e h
    rcases parse_of_ofPattern_eq_ok h with ⟨err, herr, hparse⟩ | hparse
    · exact .inl ⟨err, herr, hparse, check_of_parse_eq_error hparse⟩
    · refine .inr ⟨_, hparse, fun text => ?_⟩
      have hmatches : e.whole.isMatch text.toList.toArray = true ↔
          e.Matches text.toList.toArray 0 text.toList.length := isMatch_whole
      exact ⟨hmatches, (check_eq_ok_iff hparse text).trans hmatches⟩

theorem matches_whole_texts_of_choice :
    (Expr.ofPattern ")(".toList = .error .groupUnopened ∧
      ∀ text, check ")(" text = .error (.pattern ")(" .groupUnopened)) ∧
    (Expr.ofPattern "ab|c".toList = .ok (.alternation [.literal ['a', 'b'], .literal ['c']]) ∧
      check "ab|c" "c" = .ok () ∧ check "ab|c" "abc" ≠ .ok ()) := by
  have hunopened : Expr.ofPattern ")(".toList = .error .groupUnopened := by
    rw [Expr.ofPattern, Term.parse, Progress.run]
    rfl
  have hrun : Progress.run {} "ab|c".toList = .ok (.alternation
      [.concat [.literal ⟨'a', false⟩, .literal ⟨'b', false⟩], .literal ⟨'c', false⟩]) := by
    repeat rw [Progress.run_of_step rfl rfl]
    exact Progress.run_of_skip_eq_nil rfl
  have hexpr : Expr.ofPattern "ab|c".toList =
      .ok (.alternation [.literal ['a', 'b'], .literal ['c']]) := by
    rw [Expr.ofPattern, Term.parse, hrun]
    rfl
  have hwhole : Progress.run {} (anchor "ab|c".toList) = .ok (.whole (.alternation
      [.concat [.literal ⟨'a', false⟩, .literal ⟨'b', false⟩], .literal ⟨'c', false⟩])) := by
    repeat rw [Progress.run_of_step rfl rfl]
    exact Progress.run_of_skip_eq_nil rfl
  have hparse : ∀ err, parse "ab|c" ≠ .error err := by
    intro err h
    rw [parse, hexpr, Expr.ofPattern, Term.parse, hwhole] at h
    cases h
  refine ⟨⟨hunopened, ((matches_whole_texts ")(").1 _ hunopened).2⟩, hexpr, ?_⟩
  rcases (matches_whole_texts "ab|c").2 _ hexpr with ⟨err, -, h, -⟩ | ⟨w, -, h⟩
  · exact absurd h (hparse _)
  · constructor
    · rw [(h "c").2]
      simp [Expr.Matches, Expr.MatchesAny]
    · rw [Ne, (h "abc").2]
      simp [Expr.Matches, Expr.MatchesAny]

end Whole

end Exemplar.Pattern
