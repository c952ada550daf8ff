import Exemplar.Pattern.Expr.OfTerm

/-!
# Choices have branches

A choice between nothing would match nothing, and yet have no class without members
in it. No pattern has one: expressions are built by functions that keep it out, and
a choice that is left without branches becomes the class of no characters. It is
shown for these functions one by one, from parts that are `Branching` to what is made
of them, and then for the meaning of any term.
-/

namespace Exemplar.Pattern

namespace Expr

mutual

/-- Every choice in the expression has a branch. -/
def Branching : Expr → Prop
  | .repetition _ _ _ e => Branching e
  | .capture _ _ e => Branching e
  | .concat es => BranchingAll es
  | .alternation es => es ≠ [] ∧ BranchingAll es
  | _ => True

def BranchingAll : List Expr → Prop
  | [] => True
  | e :: es => Branching e ∧ BranchingAll es

end

variable {es fs : List Expr} {e : Expr}

theorem branchingAll_iff : BranchingAll es ↔ ∀ e ∈ es, e.Branching := by
  induction es with
  | nil => simp [BranchingAll]
  | cons e es ih => simp [BranchingAll, ih]

theorem branching_ofSet (s : CharSet) (basic : Bool) : (ofSet s basic).Branching := by
  rw [ofSet]
  split
  · trivial
  · split <;> trivial

theorem Branching.replicate (h : e.Branching) (min : Nat) (max : Option Nat) (greedy : Bool) :
    (Expr.replicate min max greedy e).Branching := by
  unfold Expr.replicate
  split
  split
  · trivial
  · split <;> exact h

theorem Branching.parts (h : e.Branching) : ∀ f ∈ e.parts, f.Branching := by
  cases e with
  | empty => nofun
  | concat es => exact branchingAll_iff.1 h
  | literal | cls | look | repetition | capture | alternation => simpa [Expr.parts] using h

theorem Branching.choices (h : e.Branching) : ∀ f ∈ e.choices, f.Branching := by
  cases e with
  | alternation es => exact branchingAll_iff.1 h.2
  | empty | literal | cls | look | repetition | capture | concat =>
      simpa [Expr.choices] using h

theorem branching_prepend (h : e.Branching) (hs : ∀ f ∈ es, f.Branching) :
    ∀ f ∈ prepend e es, f.Branching := by
  unfold prepend
  split
  · exact List.forall_mem_cons.2 ⟨trivial, fun f hf => hs f (List.mem_cons_of_mem _ hf)⟩
  · exact List.forall_mem_cons.2 ⟨h, hs⟩

theorem branching_foldr_prepend (h : ∀ e ∈ es, e.Branching) :
    ∀ e ∈ es.foldr prepend [], e.Branching := by
  induction es with
  | nil => nofun
  | cons e es ih =>
      obtain ⟨he, hes⟩ := List.forall_mem_cons.1 h
      exact branching_prepend he (ih hes)

theorem branching_sequence (h : ∀ e ∈ es, e.Branching) : (sequence es).Branching := by
  have hparts : ∀ e ∈ es.flatMap Expr.parts, e.Branching := by
    intro e he
    obtain ⟨f, hf, he⟩ := List.mem_flatMap.1 he
    exact (h f hf).parts e he
  have hitems := branching_foldr_prepend hparts
  rw [sequence]
  split
  · trivial
  · next e he => exact hitems e (he ▸ List.mem_singleton_self e)
  · exact branchingAll_iff.2 hitems

theorem commonPrefix_isPrefix (es fs : List Expr) : commonPrefix es fs <+: es := by
  fun_induction commonPrefix es fs with
  | case1 e es f fs _ ih => exact List.cons_prefix_cons.2 ⟨rfl, ih⟩
  | case2 | case3 => exact List.nil_prefix

theorem foldl_commonPrefix_isPrefix (others : List (List Expr)) (first : List Expr) :
    others.foldl commonPrefix first <+: first := by
  induction others generalizing first with
  | nil => exact List.prefix_refl first
  | cons other others ih => exact (ih _).trans (commonPrefix_isPrefix first other)

theorem items?_eq_some {items : List Expr} (h : e.items? = some items) : e = .concat items := by
  cases e <;> simp_all [items?]

theorem exists_of_mem_mapM {α β : Type} {f : α → Option β} {as : List α} {bs : List β}
    (h : as.mapM f = some bs) : ∀ b ∈ bs, ∃ a ∈ as, f a = some b := by
  induction as generalizing bs with
  | nil => simp_all
  | cons a as ih =>
      simp only [List.mapM_cons, Option.bind_eq_bind, Option.pure_def,
        Option.bind_eq_some_iff] at h
      obtain ⟨b, hb, rest, hrest, ⟨⟩⟩ := h
      intro c hc
      rcases List.mem_cons.1 hc with rfl | hc
      · exact ⟨a, List.mem_cons_self, hb⟩
      · obtain ⟨a', ha', h⟩ := ih hrest c hc
        exact ⟨a', List.mem_cons_of_mem a ha', h⟩

theorem branching_factor? (h : ∀ e ∈ es, e.Branching) {front : List Expr}
    {behind : List (List Expr)} (hf : factor? es = some (front, behind)) :
    (∀ e ∈ front, e.Branching) ∧ ∀ items ∈ behind, ∀ e ∈ items, e.Branching := by
  unfold factor? at hf
  split at hf
  · next first others hitems =>
    have hlists : ∀ items ∈ first :: others, ∀ e ∈ items, e.Branching := by
      intro items hmem
      obtain ⟨e, he, heq⟩ := exists_of_mem_mapM hitems items hmem
      have hbranching := h e he
      rw [items?_eq_some heq] at hbranching
      exact branchingAll_iff.1 hbranching
    dsimp only at hf
    split at hf
    · cases hf
    · cases hf
      constructor
      · intro e he
        exact hlists first List.mem_cons_self e ((foldl_commonPrefix_isPrefix others first).mem he)
      · intro items hmem e he
        obtain ⟨items', hmem', rfl⟩ := List.mem_map.1 hmem
        exact hlists items' hmem' e (List.mem_of_mem_drop he)
  · cases hf

theorem branching_flatMap_choices (h : ∀ e ∈ es, e.Branching) :
    ∀ e ∈ es.flatMap Expr.choices, e.Branching := by
  intro e he
  obtain ⟨f, hf, he⟩ := List.mem_flatMap.1 he
  exact (h f hf).choices e he

theorem branching_choose (bound : Nat) (h : ∀ e ∈ es, e.Branching) :
    (choose bound es).Branching := by
  fun_induction choose bound es with
  | case1 => trivial
  | case2 bound es e he => exact branching_flatMap_choices h e (he ▸ List.mem_singleton_self e)
  | case3 => exact branching_ofSet _ _
  | case4 => exact branching_ofSet _ _
  | case5 es bound front behind _ _ _ _ hfactor ih =>
      obtain ⟨hfront, hbehind⟩ := branching_factor? (branching_flatMap_choices h) hfactor
      have hchoice : (choose bound (behind.map sequence)).Branching := by
        refine ih fun e he => ?_
        obtain ⟨items, hitems, rfl⟩ := List.mem_map.1 he
        exact branching_sequence (hbehind items hitems)
      refine branching_sequence fun e he => ?_
      rcases List.mem_append.1 he with he | he
      · exact hfront e he
      · exact List.mem_singleton.1 he ▸ hchoice
  | case6 bound es hne =>
      exact ⟨hne, branchingAll_iff.2 (branching_flatMap_choices h)⟩

end Expr

/-! ## The meaning of a term -/

section

variable {f g : Flags} {e : Expr}

theorem branching_literalExpr {l : Literal} (h : f.literalExpr l = .ok e) : e.Branching := by
  have hchoice : ∀ (p : Prop) [Decidable p] (s : CharSet) (basic : Bool) (c : Char),
      (if p then Expr.ofSet s basic else .literal [c]).Branching := by
    intro p _ s basic c
    split
    · exact Expr.branching_ofSet s basic
    · trivial
  unfold Flags.literalExpr at h
  dsimp only at h
  split at h
  · cases h
    exact hchoice ..
  · split at h
    · cases h
    · cases h
      exact hchoice ..

theorem branching_dotExpr (h : f.dotExpr = .ok e) : e.Branching := by
  rw [Flags.dotExpr] at h
  split at h
  · cases h
  · split at h
    · cases h
      exact Expr.branching_ofSet ..
    · split at h <;> cases h <;> exact Expr.branching_ofSet ..

theorem branching_setExpr {s : Except PatternError CharSet} (h : f.setExpr s = .ok e) :
    e.Branching := by
  cases s with
  | error err => cases h
  | ok s =>
      cases h
      exact Expr.branching_ofSet ..

theorem eq_ok_of_map_pair {r : Except PatternError Expr} (h : r.map (·, f) = .ok (e, g)) :
    r = .ok e := by
  cases r with
  | error err => cases h
  | ok e' =>
      cases h
      rfl

end

mutual

/-- The meaning of a term has no choice without branches. -/
theorem Term.branching_toExpr {f g : Flags} {e : Expr} :
    (t : Term) → t.toExpr f = .ok (e, g) → e.Branching
  | .empty, h => by
      cases h
      trivial
  | .flags _, h => by
      cases h
      trivial
  | .literal _, h => branching_literalExpr (eq_ok_of_map_pair h)
  | .dot, h => branching_dotExpr (eq_ok_of_map_pair h)
  | .assertion _, h => by
      cases h
      trivial
  | .letter _ _, h => branching_setExpr (eq_ok_of_map_pair h)
  | .property _ _, h => branching_setExpr (eq_ok_of_map_pair h)
  | .bracketed _ set, h => by
      rw [Term.toExpr] at h
      cases hset : f.classSet set with
      | error err => simp [hset] at h
      | ok s =>
          rw [hset] at h
          exact branching_setExpr (eq_ok_of_map_pair h)
  | .repetition min max greedy sub, h => by
      rw [Term.toExpr] at h
      cases hsub : sub.toExpr f with
      | error err => simp [hsub] at h
      | ok x =>
          rw [hsub] at h
          cases h
          exact (Term.branching_toExpr sub hsub).replicate ..
  | .capture _ _ sub, h => by
      rw [Term.toExpr] at h
      cases hsub : sub.toExpr f with
      | error err => simp [hsub] at h
      | ok x =>
          rw [hsub] at h
          cases h
          exact (Term.branching_toExpr sub hsub : x.1.Branching)
  | .group changes sub, h => by
      rw [Term.toExpr] at h
      cases hsub : sub.toExpr (f.setAll changes) with
      | error err => simp [hsub] at h
      | ok x =>
          rw [hsub] at h
          cases h
          exact Term.branching_toExpr sub hsub
  | .concat items, h => by
      rw [Term.toExpr] at h
      cases hitems : Term.toExprs f items with
      | error err => simp [hitems] at h
      | ok x =>
          rw [hitems] at h
          cases h
          exact Expr.branching_sequence (Term.branching_toExprs items hitems)
  | .alternation branches, h => by
      rw [Term.toExpr] at h
      cases hbranches : Term.toExprs f branches with
      | error err => simp [hbranches] at h
      | ok x =>
          rw [hbranches] at h
          cases h
          exact Expr.branching_choose _ (Term.branching_toExprs branches hbranches)

theorem Term.branching_toExprs {f g : Flags} {es : List Expr} :
    (terms : List Term) → Term.toExprs f terms = .ok (es, g) → ∀ e ∈ es, e.Branching
  | [], h => by
      cases h
      nofun
  | t :: terms, h => by
      rw [Term.toExprs] at h
      cases ht : t.toExpr f with
      | error err => simp [ht] at h
      | ok x =>
          rw [ht] at h
          dsimp only at h
          cases hterms : Term.toExprs x.2 terms with
          | error err => simp [hterms] at h
          | ok y =>
              rw [hterms] at h
              cases h
              exact List.forall_mem_cons.2
                ⟨Term.branching_toExpr t ht, Term.branching_toExprs terms hterms⟩

end

end Exemplar.Pattern
