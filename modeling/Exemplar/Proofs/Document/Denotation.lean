import Exemplar.Proofs.Document.Update

/-!
# What a path denotes

`at?` takes a path to at most one node, and none with a wildcard. The path of a
rule may have wildcards, and then stands for many nodes: `j.Denotes p d` says that
`d` is one of the nodes that `p` leads to in `j`, where a wildcard is followed
through any of the elements of an array.

A document `Covers` another one if no path has lost all of its nodes. This is what
adding to a document comes to for the rules that it already has. It is carried
from a node to the document that holds it, since all other children stay, and a
wildcard that went through the old child goes through the new one.
-/

namespace Exemplar

namespace Json

inductive Leads : Json → Segment → Json → Prop
  | child {j c : Json} {s : Segment} (h : j.child? s = some c) : Leads j s c
  | element {items : List Json} {c : Json} (h : c ∈ items) : Leads (.arr items) .wildcard c

/-- A path from a node to one below it. -/
inductive Denotes : Json → Path → Json → Prop
  | self (j : Json) : Denotes j [] j
  | step {j c d : Json} {s : Segment} {p : Path} (hs : j.Leads s c) (hp : Denotes c p d) :
    Denotes j (s :: p) d

/-- Each path that leads to some node of `j` leads to some node here. -/
def Covers (j' j : Json) : Prop := ∀ p, (∃ d, j.Denotes p d) → ∃ d, j'.Denotes p d

variable {j j' c c' d v : Json} {p q : Path} {s t : Segment}

theorem Denotes.append (hp : j.Denotes p c) (hq : c.Denotes q d) : j.Denotes (p ++ q) d := by
  induction hp with
  | self j => exact hq
  | step hs _ ih => exact .step hs (ih hq)

theorem denotes_of_at? (h : j.at? p = some d) : j.Denotes p d := by
  induction p generalizing j with
  | nil =>
      obtain rfl : j = d := by simpa using h
      exact .self j
  | cons s p ih =>
      rw [at?_cons, Option.bind_eq_some_iff] at h
      obtain ⟨c, hc, h⟩ := h
      exact .step (.child hc) (ih h)

namespace Covers

theorem refl (j : Json) : j.Covers j := fun _ h => h

theorem of_leads (h : ∀ s c, j.Leads s c → ∃ c', j'.Leads s c' ∧ c'.Covers c) : j'.Covers j := by
  rintro p ⟨d, hd⟩
  cases hd with
  | self => exact ⟨j', .self j'⟩
  | step hs hp =>
      obtain ⟨c', hs', hc⟩ := h _ _ hs
      obtain ⟨d', hd'⟩ := hc _ ⟨d, hp⟩
      exact ⟨d', .step hs' hd'⟩

theorem setChild (hd : j.child? s = some d) (h : v.Covers d) : (j.setChild s v).Covers j := by
  have hself : (j.setChild s v).child? s = some v := child?_setChild j s v (by simp [hd])
  refine of_leads fun t c hc => ?_
  by_cases ht : t = s
  · subst ht
    cases hc with
    | child hc =>
        obtain rfl : d = c := Option.some.inj (hd.symm.trans hc)
        exact ⟨v, .child hself, h⟩
    | element => simp [child?] at hd
  · cases hc with
    | child hc =>
        refine ⟨c, .child ?_, refl c⟩
        rw [child?_setChild_of_ne j v ht, hc]
    -- The wildcard goes through the element that is replaced, or through another one.
    | @element items _ hc =>
        cases s with
        | key | wildcard => simp [child?] at hd
        | index i =>
            obtain ⟨hi, rfl⟩ := List.getElem?_eq_some_iff.1 (hd : items[i]? = some d)
            obtain ⟨k, hk, rfl⟩ := List.mem_iff_getElem.1 hc
            by_cases hki : k = i
            · subst hki
              exact ⟨v, .element (List.mem_set hk v), h⟩
            · refine ⟨items[k], .element (List.mem_iff_getElem.2 ⟨k, by simpa using hk, ?_⟩), refl _⟩
              exact List.getElem_set_ne (Ne.symm hki) (by simpa using hk)

/-- What is put where nothing was takes nothing away. -/
theorem putChild (h : c.putChild s v = .ok c') (hfree : c.child? s = none) : c'.Covers c := by
  refine of_leads fun t d hd => ?_
  cases hd with
  | child hd =>
      have ht : t ≠ s := by
        rintro rfl
        simp [hfree] at hd
      exact ⟨d, .child ((child?_putChild_of_ne h ht).trans hd), refl d⟩
  | element hd =>
      rcases putChild_cases h with ⟨_, _, hc, -, -⟩ | ⟨items, i, hc, rfl, hi, -⟩ | ⟨items, hc, -, rfl⟩
      · cases hc
      · cases hc
        simp [child?, hi] at hfree
      · cases hc
        exact ⟨d, .element (List.mem_append_left _ hd), refl d⟩

theorem set? (h : j.set? p v = some j') (hc : j.at? p = some c) (hv : v.Covers c) :
    j'.Covers j := by
  induction p generalizing j j' with
  | nil =>
      obtain rfl : v = j' := by simpa [Json.set?] using h
      obtain rfl : j = c := by simpa using hc
      exact hv
  | cons s p ih =>
      rw [set?_cons, Option.bind_eq_some_iff] at h
      obtain ⟨d, hd, h⟩ := h
      obtain ⟨d', hd', rfl⟩ := Option.map_eq_some_iff.1 h
      rw [at?_cons, hd, Option.bind_some] at hc
      exact setChild hd (ih hd' hc)

theorem putAt? (h : j.putAt? p s v = some j') (hfree : j.at? (p.extend s) = none) :
    j'.Covers j := by
  obtain ⟨c, c', hc, hput, hset⟩ := putAt?_eq_some_iff.1 h
  refine set? hset hc (putChild hput ?_)
  rw [Path.extend, at?_append, hc, Option.bind_some, at?_cons] at hfree
  cases hchild : c.child? s with
  | none => rfl
  | some d => simp [hchild] at hfree

end Covers

end Json

end Exemplar
