import Exemplar.Proofs.Pattern.Anchor
import Exemplar.Proofs.Pattern.Choices

/-!
# The specimen of a pattern is described by it

A specimen is written without looking at what it is for, and only then compared with
the pattern. Where an expression is `Unconditional`, that is, where nothing in it asks
what is around a position and no class is without members, the comparison comes out
well: wherever the specimen is written in a text, the expression describes that part of
the text. This is shown along the expression, for any text around the specimen, so that
the specimens of parts may stand one behind the other.

Conditions at the ends of a pattern that are true at the ends of every text do no harm
either, since the specimen is all of its text.
-/

namespace Exemplar

namespace CharRange

theorem has_of_inter? {r s t : CharRange} (h : r.inter? s = some t) : r.has t.first = true := by
  unfold inter? at h
  dsimp only at h
  obtain ⟨hle, ht⟩ := Option.dite_none_right_eq_some.1 h
  obtain rfl := Option.some.inj ht
  have hfirst : r.first ≤ if r.first ≤ s.first then s.first else r.first := by
    split
    · assumption
    · exact Char.le_refl _
  have hlast : (if r.last ≤ s.last then r.last else s.last) ≤ r.last := by
    split
    · exact Char.le_refl _
    · exact (Char.le_total _ _).resolve_left ‹_›
  simp only [has, Bool.and_eq_true, decide_eq_true_eq]
  exact ⟨hfirst, Char.le_trans hle hlast⟩

theorem has_first (r : CharRange) : r.has r.first = true := by
  simp [has, r.le]

end CharRange

namespace CharSet

variable {s : CharSet} {c : Char}

theorem has_of_specimen? (h : s.specimen? = some c) : s.has c = true := by
  rw [has, List.any_eq_true]
  rw [specimen?, Option.orElse_eq_orElse, Option.orElse_eq_or, Option.or_eq_some_iff] at h
  rcases h with h | ⟨-, h⟩
  · obtain ⟨band, -, h⟩ := List.exists_of_findSome?_eq_some h
    obtain ⟨r, hr, h⟩ := List.exists_of_findSome?_eq_some h
    obtain ⟨t, ht, rfl⟩ := Option.map_eq_some_iff.1 h
    exact ⟨r, hr, CharRange.has_of_inter? ht⟩
  · obtain ⟨r, hr, rfl⟩ := Option.map_eq_some_iff.1 h
    exact ⟨r, List.mem_of_head? hr, r.has_first⟩

theorem exists_specimen? (h : s.has c = true) : ∃ d, s.specimen? = some d := by
  rw [has, List.any_eq_true] at h
  obtain ⟨r, hr, -⟩ := h
  cases hranges : s.ranges with
  | nil => simp [hranges] at hr
  | cons first rest =>
      rw [← Option.isSome_iff_exists, specimen?, Option.orElse_eq_orElse, Option.orElse_eq_or,
        Option.isSome_or]
      simp [hranges]

end CharSet

namespace Pattern

namespace Expr

mutual

/-- Nothing in the expression is a condition on a position, and every class in it has a
member. -/
def Unconditional : Expr → Prop
  | .look _ => False
  | .cls s _ => ∃ c, s.has c = true
  | .repetition _ _ _ e => Unconditional e
  | .capture _ _ e => Unconditional e
  | .concat es => UnconditionalAll es
  | .alternation es => UnconditionalAll es
  | _ => True

def UnconditionalAll : List Expr → Prop
  | [] => True
  | e :: es => Unconditional e ∧ UnconditionalAll es

end

variable {text : Array Char} {i : Nat}

theorem prefix_drop_of_append {xs ys : List Char} (h : xs ++ ys <+: text.toList.drop i) :
    xs <+: text.toList.drop i ∧ ys <+: text.toList.drop (i + xs.length) := by
  obtain ⟨rest, hrest⟩ := h
  refine ⟨⟨ys ++ rest, by rw [← hrest, List.append_assoc]⟩, rest, ?_⟩
  rw [← List.drop_drop, ← hrest, List.append_assoc, List.drop_left]

/-- What is described once wherever it is written is described again and again where it
is written so. -/
theorem repeated_replicate {r : Nat → Nat → Prop} {cs : List Char}
    (h : ∀ i, cs <+: text.toList.drop i → r i (i + cs.length)) (n : Nat) (i : Nat)
    (hcs : (List.replicate n cs).flatten <+: text.toList.drop i) :
    Repeated r n i (i + (List.replicate n cs).flatten.length) := by
  induction n generalizing i with
  | zero => rfl
  | succ n ih =>
      rw [List.replicate_succ, List.flatten_cons] at hcs ⊢
      obtain ⟨hfirst, hrest⟩ := prefix_drop_of_append hcs
      rw [List.length_append, ← Nat.add_assoc]
      exact ⟨_, h i hfirst, ih _ hrest⟩

theorem specimenCount_allowed (min : Nat) (max : Option Nat) :
    min ≤ specimenCount min max ∧
      (specimenCount min max = min ∨ ∀ m ∈ max, specimenCount min max ≤ m) := by
  rw [specimenCount]
  split
  · next hmin =>
    subst hmin
    split
    · exact ⟨Nat.zero_le _, .inl rfl⟩
    · next hmax =>
      refine ⟨Nat.zero_le _, .inr ?_⟩
      rintro m rfl
      exact Nat.one_le_iff_ne_zero.2 fun hm => hmax (by rw [hm])
  · exact ⟨Nat.le_refl _, .inl rfl⟩

mutual

/-- Wherever its specimen is written in a text, an expression without conditions
describes it. -/
theorem matches_specimen (text : Array Char) :
    (e : Expr) → e.Unconditional → e.Branching → ∀ i, e.specimen <+: text.toList.drop i →
      e.Matches text i (i + e.specimen.length)
  | .empty, _, _, i, _ => rfl
  | .literal cs, _, _, i, h => ⟨h, rfl⟩
  | .cls s basic, hs, _, i, h => by
      obtain ⟨c, hc⟩ := hs
      obtain ⟨d, hd⟩ := CharSet.exists_specimen? hc
      have hspecimen : specimen (.cls s basic) = [d] := by simp [specimen, hd]
      rw [hspecimen] at h ⊢
      obtain ⟨htext, -⟩ := cons_prefix_drop.1 h
      refine ⟨?_, rfl⟩
      cases hi : text[i]? with
      | none => simp [hi] at htext
      | some d' =>
          obtain rfl : d' = d := by simpa [hi] using htext
          exact CharSet.has_of_specimen? hd
  | .look _, h, _, _, _ => h.elim
  | .repetition min max _ e, hu, hb, i, h => by
      obtain ⟨hmin, hmax⟩ := specimenCount_allowed min max
      -- The specimen is repeated as often as it is shown, which the bounds allow.
      exact ⟨specimenCount min max, hmin, hmax,
        repeated_replicate (fun i => matches_specimen text e hu hb i) _ i h⟩
  | .capture _ _ e, hu, hb, i, h => matches_specimen text e hu hb i h
  | .concat es, hu, hb, i, h => matchesAll_specimenAll text es hu hb i h
  | .alternation [], _, hb, _, _ => absurd rfl hb.1
  | .alternation (e :: _), hu, hb, i, h => .inl (matches_specimen text e hu.1 hb.2.1 i h)

theorem matchesAll_specimenAll (text : Array Char) :
    (es : List Expr) → UnconditionalAll es → BranchingAll es →
      ∀ i, specimenAll es <+: text.toList.drop i →
        MatchesAll text es i (i + (specimenAll es).length)
  | [], _, _, _, _ => rfl
  | e :: es, hu, hb, i, h => by
      obtain ⟨hfirst, hrest⟩ := prefix_drop_of_append h
      refine ⟨_, matches_specimen text e hu.1 hb.1 i hfirst, ?_⟩
      rw [specimenAll, List.length_append, ← Nat.add_assoc]
      exact matchesAll_specimenAll text es hu.2 hb.2 _ hrest

end

/-! ## Conditions at the ends -/

end Expr

/-- The condition is true at the start of every text. -/
def Look.Starts : Look → Prop
  | .start | .startLine | .startLineCrlf => True
  | _ => False

/-- The condition is true at the end of every text. -/
def Look.Stops : Look → Prop
  | .stop | .stopLine | .stopLineCrlf => True
  | _ => False

theorem Look.Starts.holds {l : Look} (h : l.Starts) (behind : Option Char) :
    l.holds none behind = true := by
  cases l <;> first | exact h.elim | rfl

theorem Look.Stops.holds {l : Look} (h : l.Stops) (front : Option Char) :
    l.holds front none = true := by
  cases l <;> first | exact h.elim | rfl

namespace Expr

/-- All conditions on positions stand at the ends of the expression: those that begin it
are true at the start of every text, those that end it at the end of every text. All
classes have members. -/
def AnchoredOnly (e : Expr) : Prop :=
  ∃ (starts stops : List Look) (body : List Expr),
    e.parts = starts.map .look ++ body ++ stops.map .look ∧
    (∀ l ∈ starts, l.Starts) ∧ (∀ b ∈ body, b.Unconditional) ∧ ∀ l ∈ stops, l.Stops

theorem specimenAll_append (es fs : List Expr) :
    specimenAll (es ++ fs) = specimenAll es ++ specimenAll fs := by
  induction es with
  | nil => rfl
  | cons e es ih => rw [List.cons_append, specimenAll, specimenAll, ih, List.append_assoc]

theorem specimenAll_looks (ls : List Look) : specimenAll (ls.map .look) = [] := by
  induction ls with
  | nil => rfl
  | cons l ls ih => exact ih

theorem specimenAll_parts (e : Expr) : specimenAll e.parts = e.specimen := by
  cases e with
  | empty | concat => rfl
  | literal | cls | look | repetition | capture | alternation => exact List.append_nil _

theorem matchesAll_looks {ls : List Look} {k : Nat}
    (h : ∀ l ∈ ls, l.holds (Marks.charBefore? text k) text[k]? = true) :
    MatchesAll text (ls.map .look) k k := by
  induction ls with
  | nil => rfl
  | cons l ls ih =>
      obtain ⟨hl, hls⟩ := List.forall_mem_cons.1 h
      exact ⟨k, ⟨hl, rfl⟩, ih hls⟩

theorem unconditionalAll_iff {es : List Expr} :
    UnconditionalAll es ↔ ∀ e ∈ es, e.Unconditional := by
  induction es with
  | nil => simp [UnconditionalAll]
  | cons e es ih => simp [UnconditionalAll, ih]

/-- The specimen of an expression is described by it from its first position to its last. -/
theorem AnchoredOnly.matches_specimen {e : Expr} (h : e.AnchoredOnly) (hb : e.Branching) :
    e.Matches e.specimen.toArray 0 e.specimen.length := by
  obtain ⟨starts, stops, body, hparts, hstarts, hbody, hstops⟩ := h
  have hspecimen : e.specimen = specimenAll body := by
    rw [← specimenAll_parts, hparts, specimenAll_append, specimenAll_append, specimenAll_looks,
      specimenAll_looks, List.nil_append, List.append_nil]
  have hbranching : BranchingAll body := by
    refine branchingAll_iff.2 fun b hmem => hb.parts b ?_
    rw [hparts]
    exact List.mem_append_left _ (List.mem_append_right _ hmem)
  have hbodies := matchesAll_specimenAll e.specimen.toArray body (unconditionalAll_iff.2 hbody)
    hbranching 0 (by simp [hspecimen])
  rw [← matchesAll_parts, hparts, matchesAll_append]
  simp only [matchesAll_append]
  refine ⟨e.specimen.length, ⟨0, matchesAll_looks fun l hl => (hstarts l hl).holds _, ?_⟩,
    matchesAll_looks fun l hl => ?_⟩
  · simpa [hspecimen] using hbodies
  · rw [show e.specimen.toArray[e.specimen.length]? = none by simp]
    exact (hstops l hl).holds _

theorem branching_ofPattern {pattern : List Char} {e : Expr} (h : ofPattern pattern = .ok e) :
    e.Branching := by
  rw [ofPattern] at h
  cases hparse : Term.parse pattern with
  | error err => simp [hparse] at h
  | ok t =>
      rw [hparse] at h
      cases hmeaning : t.toExpr {} with
      | error err => simp [hmeaning, Except.map] at h
      | ok x =>
          simp only [hmeaning] at h
          cases h
          exact t.branching_toExpr hmeaning

end Expr

namespace Whole

/-- A text is made up of every pattern that can be compiled and has conditions on
positions at its ends only, and no class without members: it is the specimen of the
pattern, and the pattern describes it from its first position to its last. -/
theorem synthesize_of_anchoredOnly {pattern : String} {w : Whole} {e : Expr}
    (hw : parse pattern = .ok w) (he : Expr.ofPattern pattern.toList = .ok e)
    (h : e.AnchoredOnly) :
    ∃ text : String, synthesize pattern = .ok text ∧ text.toList = e.specimen ∧
      e.Matches text.toList.toArray 0 text.toList.length ∧
      w.matchesText text = true ∧ check pattern text = .ok () := by
  have hmatches := h.matches_specimen (Expr.branching_ofPattern he)
  obtain rfl : w = ⟨.ofList (anchor pattern.toList), e.whole⟩ := by
    rcases parse_of_ofPattern_eq_ok he with ⟨err, -, hparse⟩ | hparse
    · cases hw.symm.trans hparse
    · exact Except.ok.inj (hw.symm.trans hparse)
  have htext : Whole.matchesText ⟨.ofList (anchor pattern.toList), e.whole⟩
      (.ofList e.specimen) = true := by
    refine isMatch_whole.2 ?_
    simpa using hmatches
  refine ⟨.ofList e.specimen, ?_, String.toList_ofList, ?_, htext, (check_eq_ok_iff hw _).2 htext⟩
  · simp [synthesize, he, hw, htext]
  · simpa using hmatches

/-- A pattern with a choice that is repeated, a class and a condition at either end. -/
def framedPattern : String := "^(ab|cd)+(?-u:\\d)?$"

def framedTerm : Term :=
  .concat [.assertion .startLine,
    .repetition 1 none true (.capture 1 none (.alternation
      [.concat [.literal ⟨'a', false⟩, .literal ⟨'b', false⟩],
        .concat [.literal ⟨'c', false⟩, .literal ⟨'d', false⟩]])),
    .repetition 0 (some 1) true (.group [(.unicode, false)] (.letter .digit false)),
    .assertion .endLine]

def framedExpr : Expr :=
  .concat [.look .start,
    .repetition 1 none true (.capture 1 none (.alternation
      [.literal ['a', 'b'], .literal ['c', 'd']])),
    .repetition 0 (some 1) true (.cls (.range '0' '9') true), .look .stop]

theorem run_framed : Progress.run {} framedPattern.toList = .ok framedTerm := by
  repeat rw [Progress.run_of_step rfl rfl]
  exact Progress.run_of_skip_eq_nil rfl

theorem run_anchor_framed :
    Progress.run {} (anchor framedPattern.toList) = .ok framedTerm.whole := by
  repeat rw [Progress.run_of_step rfl rfl]
  exact Progress.run_of_skip_eq_nil rfl

theorem ofPattern_framed : Expr.ofPattern framedPattern.toList = .ok framedExpr := by
  rw [Expr.ofPattern, Term.parse, run_framed]
  rfl

theorem exists_parse_framed : ∃ w, parse framedPattern = .ok w := by
  cases hw : parse framedPattern with
  | ok w => exact ⟨w, rfl⟩
  | error err =>
      rw [parse, ofPattern_framed, Expr.ofPattern, Term.parse, run_anchor_framed] at hw
      cases hw

theorem synthesize_of_anchoredOnly_framed :
    (∃ w, parse framedPattern = .ok w) ∧
    Expr.ofPattern framedPattern.toList = .ok framedExpr ∧ framedExpr.AnchoredOnly ∧
    ∃ text : String, synthesize framedPattern = .ok text ∧ text.toList = ['a', 'b', '0'] := by
  obtain ⟨w, hw⟩ := exists_parse_framed
  have hends : framedExpr.AnchoredOnly := by
    refine ⟨[.start], [.stop], [.repetition 1 none true (.capture 1 none (.alternation
      [.literal ['a', 'b'], .literal ['c', 'd']])),
      .repetition 0 (some 1) true (.cls (.range '0' '9') true)], rfl, by simp [Look.Starts], ?_,
      by simp [Look.Stops]⟩
    have hdigit : (CharSet.range '0' '9').has '0' = true := by decide
    simpa [Expr.Unconditional, Expr.UnconditionalAll] using ⟨'0', hdigit⟩
  obtain ⟨text, hsynth, htext, -⟩ := synthesize_of_anchoredOnly hw ofPattern_framed hends
  exact ⟨⟨w, hw⟩, ofPattern_framed, hends, text, hsynth, htext.trans (by decide)⟩

end Whole

end Pattern

end Exemplar
