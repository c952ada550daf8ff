import Exemplar.Proofs.Document.Update

/-!
# What an update leaves alone

An update puts a value at the step `s` below the container at `p`. Off the way to
`p.extend s` nothing changes, and this is an equality of nodes. On the way there
the nodes are other ones, because they hold the new value; what stays the same of
them is what they are apart from what they hold, and the steps that lead to their
children. `steps` lists these steps in order. Only the container at `p` can get
one step more, and gets it at the end.

Whatever is said of a node that does not depend on what its children are is kept
by replacing a node below it: `map_at?_set?`, which was first used for the kinds of
nodes and is used for their steps here.
-/

namespace Exemplar

namespace Json

/-- The steps that lead to the children of a node, in order. -/
def steps : Json → List Segment
  | .obj fields => (Entries.keys fields).map .key
  | .arr items => (List.range items.length).map .index
  | _ => []

def stepsAt? (j : Json) (p : Path) : Option (List Segment) := (j.at? p).map steps

def addStep (s : Segment) (ss : List Segment) : List Segment := if s ∈ ss then ss else ss ++ [s]

variable {j j' c c' v : Json} {p q : Path} {s : Segment}

theorem mem_steps_iff : s ∈ c.steps ↔ (c.child? s).isSome := by
  cases c <;> cases s <;> simp [steps, child?]
  case obj.key fields name =>
    rw [← Option.ne_none_iff_isSome, ne_eq, Entries.get?_eq_none_iff, Decidable.not_not]

theorem steps_setChild (h : (c.child? s).isSome) (v : Json) : (c.setChild s v).steps = c.steps := by
  have hs := mem_steps_iff.2 h
  cases c <;> cases s <;> simp [setChild, steps] at hs ⊢
  case obj.key fields name => rw [Entries.keys_put, if_pos hs]

theorem steps_putChild (h : c.putChild s v = .ok c') : c'.steps = addStep s c.steps := by
  rcases putChild_cases h with
    ⟨fields, name, rfl, rfl, rfl⟩ | ⟨items, i, rfl, rfl, hi, rfl⟩ | ⟨items, rfl, rfl, rfl⟩
  · by_cases hn : name ∈ Entries.keys fields <;> simp [steps, addStep, Entries.keys_put, hn]
  · simp [steps, addStep, hi]
  · simp [steps, addStep, List.range_succ]

theorem stepsAt?_set? (h : j.set? p v = some j') (hq : ¬ p <+: q) :
    j'.stepsAt? q = j.stepsAt? q :=
  map_at?_set? steps (fun _ _ v hc => steps_setChild hc v) h hq

theorem at?_set?_of_not_prefix (h : j.set? p v = some j') (hq : ¬ p <+: q) (hp : ¬ q <+: p) :
    j'.at? q = j.at? q := by
  induction p generalizing j j' q with
  | nil => exact absurd List.nil_prefix hq
  | cons s p ih =>
      rw [set?_cons, Option.bind_eq_some_iff] at h
      obtain ⟨c, hc, h⟩ := h
      obtain ⟨d, hd, rfl⟩ := Option.map_eq_some_iff.1 h
      cases q with
      | nil => exact absurd List.nil_prefix hp
      | cons t q =>
          rw [at?_cons, at?_cons]
          by_cases ht : t = s
          · subst ht
            rw [child?_setChild j t d (by simp [hc]), hc, Option.bind_some, Option.bind_some]
            exact ih hd (fun h => hq (List.cons_prefix_cons.2 ⟨rfl, h⟩))
              (fun h => hp (List.cons_prefix_cons.2 ⟨rfl, h⟩))
          · rw [child?_setChild_of_ne j d ht]

/-- An update leaves all nodes off the way as they are. -/
theorem at?_putAt?_of_not_prefix (h : j.putAt? p s v = some j') (hq : ¬ p.extend s <+: q)
    (hp : ¬ q <+: p) : j'.at? q = j.at? q := by
  obtain ⟨c, c', hc, hput, hset⟩ := putAt?_eq_some_iff.1 h
  by_cases hpq : p <+: q
  -- Below `p` the path first goes to another child than the one that is put there.
  · obtain ⟨r, rfl⟩ := hpq
    cases r with
    | nil => simp at hp
    | cons t r =>
        have ht : t ≠ s := by
          rintro rfl
          exact hq ⟨r, by simp [Path.extend]⟩
        rw [at?_append, at?_append, at?_set? hset, hc, Option.bind_some, Option.bind_some,
          at?_cons, at?_cons, child?_putChild_of_ne hput ht]
  · exact at?_set?_of_not_prefix hset hpq hp

/-- An update adds no step but that of the value to its container. -/
theorem stepsAt?_putAt? (h : j.putAt? p s v = some j') (hq : ¬ p.extend s <+: q) :
    j'.stepsAt? q = if q = p then (j.stepsAt? p).map (addStep s) else j.stepsAt? q := by
  obtain ⟨c, c', hc, hput, hset⟩ := putAt?_eq_some_iff.1 h
  by_cases hqp : q = p
  · subst hqp
    rw [if_pos rfl, stepsAt?, stepsAt?, at?_set? hset, hc]
    exact congrArg some (steps_putChild hput)
  · rw [if_neg hqp]
    by_cases hpre : q <+: p
    · have hpq : ¬ p <+: q := fun h' => hqp (hpre.eq_of_length_le h'.length_le)
      exact stepsAt?_set? hset hpq
    · rw [stepsAt?, stepsAt?, at?_putAt?_of_not_prefix h hq hpre]

theorem not_extend_prefix_of_prefix (hq : q <+: p) : ¬ p.extend s <+: q := by
  intro hs
  have hlen := (hs.trans hq).length_le
  rw [Path.extend, List.length_append] at hlen
  exact absurd hlen (Nat.not_succ_le_self _)

/-- On the way to its step an update changes nothing of a node but what it holds, and adds
no step but to the container. -/
theorem nodes_on_way_putAt? (h : j.putAt? p s v = some j') (hq : q <+: p) :
    j'.kindAt? q = j.kindAt? q ∧
      j'.stepsAt? q = if q = p then (j.stepsAt? q).map (addStep s) else j.stepsAt? q := by
  have hoff := not_extend_prefix_of_prefix (s := s) hq
  refine ⟨kindAt?_putAt? h hoff, ?_⟩
  rw [stepsAt?_putAt? h hoff]
  split
  · next heq => rw [heq]
  · rfl

end Json

end Exemplar
