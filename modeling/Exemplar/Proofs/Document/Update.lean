import Exemplar.Builder.Basic

/-!
# Documents after an update

Whatever is put into a document is put at one step below one container, so all
updates are `putAt? j p s v`: the value `v` at the step `s` below the container
at `p`. What an update means for the rest of the document is said by paths. Below
`p.extend s` the document is that of `v`; at every path that does not lead there,
the kind of the node stays what it was, also on the way to `p`.

`replace j p v` is the total form of `set?`, for paths at which there is a node.
A document that is replaced at `p` behaves below `p` like the document `v` that
it is replaced by, with `p` in front of every path.
-/

namespace Exemplar

theorem toOption_eq_some_iff {ε α : Type _} {r : Except ε α} {a : α} :
    r.toOption = some a ↔ r = .ok a := by
  cases r <;> simp [Except.toOption]

namespace Entries

variable {β : Type _}

theorem put_put (es : Entries β) (name : String) (v w : β) :
    (es.put name v).put name w = es.put name w := by
  induction es with
  | nil => simp [put, alter]
  | cons e es ih =>
      obtain ⟨k, u⟩ := e
      by_cases h : k = name
      · simp [put, alter, h]
      · simpa [put, alter, h] using ih

end Entries

namespace Json

/-- The kind of the node at a path, if it is a container. -/
def kindAt? (j : Json) (p : Path) : Option Kind := (j.at? p).bind kind?

theorem kindAt?_nil (j : Json) : j.kindAt? [] = j.kind? := rfl

theorem kindAt?_cons (j : Json) (s : Segment) (p : Path) :
    j.kindAt? (s :: p) = (j.child? s).bind (kindAt? · p) := by
  rw [kindAt?, at?_cons]
  cases j.child? s <;> rfl

theorem kindAt?_append (j : Json) (p q : Path) :
    j.kindAt? (p ++ q) = (j.at? p).bind (kindAt? · q) := by
  rw [kindAt?, at?_append]
  cases j.at? p <;> rfl

theorem isSome_at?_of_kindAt? {j : Json} {p : Path} {k : Kind} (h : j.kindAt? p = some k) :
    (j.at? p).isSome := by
  obtain ⟨c, hc, -⟩ := Option.bind_eq_some_iff.1 h
  simp [hc]

/-! ## One step -/

def slotStep? : Json → Slot → Option Segment
  | .obj _, .key name => some (.key name)
  | .arr items, .next => some (.index items.length)
  | _, _ => none

theorem insert?_eq_some_iff (c c' : Json) (slot : Slot) (s : Segment) (v : Json) :
    c.insert? slot v = some (c', s) ↔ c.slotStep? slot = some s ∧ c.putChild s v = .ok c' := by
  cases c <;> cases slot <;> simp [insert?, slotStep?]
  all_goals
    constructor
    · rintro ⟨rfl, rfl⟩
      simp [putChild]
    · rintro ⟨rfl, h⟩
      simpa [putChild] using h

theorem kind?_setChild (c : Json) (s : Segment) (v : Json) : (c.setChild s v).kind? = c.kind? := by
  cases c <;> cases s <;> rfl

theorem setChild_setChild (c : Json) (s : Segment) (v w : Json) :
    (c.setChild s v).setChild s w = c.setChild s w := by
  cases c <;> cases s <;> simp [setChild, Entries.put_put]

theorem child?_setChild_of_ne (c : Json) {s t : Segment} (v : Json) (h : t ≠ s) :
    (c.setChild s v).child? t = c.child? t := by
  cases c <;> cases s <;> cases t <;> simp_all [child?, setChild, Entries.get?_put, eq_comm]

variable {c c' : Json} {s t : Segment} {v : Json}

/-- The three ways to put a value below a container: under a key, in place of an
element, and behind all elements. -/
theorem putChild_cases (h : c.putChild s v = .ok c') :
    (∃ fields name, c = .obj fields ∧ s = .key name ∧ c' = .obj (Entries.put fields name v)) ∨
    (∃ items i, c = .arr items ∧ s = .index i ∧ i < items.length ∧ c' = .arr (items.set i v)) ∨
    (∃ items, c = .arr items ∧ s = .index items.length ∧ c' = .arr (items ++ [v])) := by
  cases c <;> cases s <;> simp only [putChild] at h <;> try contradiction
  case arr.index items i =>
    split at h
    · exact .inr (.inl ⟨items, i, rfl, rfl, ‹_›, by simpa using h.symm⟩)
    · split at h
      · exact .inr (.inr ⟨items, rfl, by simp [*], by simpa using h.symm⟩)
      · contradiction
  case obj.key fields name =>
    exact .inl ⟨fields, name, rfl, rfl, by simpa using h.symm⟩

theorem kind?_putChild (h : c.putChild s v = .ok c') : c'.kind? = c.kind? := by
  rcases putChild_cases h with ⟨_, _, rfl, -, rfl⟩ | ⟨_, _, rfl, -, -, rfl⟩ | ⟨_, rfl, -, rfl⟩ <;>
    rfl

theorem child?_putChild (h : c.putChild s v = .ok c') : c'.child? s = some v := by
  rcases putChild_cases h with
    ⟨_, _, rfl, rfl, rfl⟩ | ⟨_, _, rfl, rfl, hi, rfl⟩ | ⟨_, rfl, rfl, rfl⟩
  · simp [child?, Entries.get?_put]
  · simp [child?, hi]
  · simp [child?]

theorem child?_putChild_of_ne (h : c.putChild s v = .ok c') (ht : t ≠ s) :
    c'.child? t = c.child? t := by
  rcases putChild_cases h with
    ⟨_, _, rfl, rfl, rfl⟩ | ⟨_, i, rfl, rfl, hi, rfl⟩ | ⟨items, rfl, rfl, rfl⟩
  · exact child?_setChild_of_ne (.obj _) v ht
  · exact child?_setChild_of_ne (.arr _) v ht
  · cases t with
    | index i =>
        have hne : i ≠ items.length := fun e => ht (by rw [e])
        simp only [child?]
        rcases Nat.lt_or_gt_of_ne hne with hlt | hgt
        · rw [List.getElem?_append_left hlt]
        · rw [List.getElem?_eq_none (by simp; omega),
            List.getElem?_eq_none (Nat.le_of_lt hgt)]
    | key | wildcard => rfl

/-- What has been put at a step may as well have been another value at first. -/
theorem putChild_of_putChild (h : c.putChild s v = .ok c') (w : Json) :
    c.putChild s w = .ok (c'.setChild s w) := by
  rcases putChild_cases h with
    ⟨_, _, rfl, rfl, rfl⟩ | ⟨_, _, rfl, rfl, hi, rfl⟩ | ⟨_, rfl, rfl, rfl⟩
  · simp [putChild, setChild, Entries.put_put]
  · simp [putChild, setChild, hi]
  · simp [putChild, setChild]

/-! ## Many steps -/

theorem set?_cons (j : Json) (s : Segment) (p : Path) (v : Json) :
    j.set? (s :: p) v = (j.child? s).bind fun c => (c.set? p v).map (j.setChild s) := rfl

theorem set?_append (j : Json) (p q : Path) (v : Json) :
    j.set? (p ++ q) v = (j.at? p).bind fun c => (c.set? q v).bind (j.set? p) := by
  induction p generalizing j with
  | nil => simp [set?]
  | cons s p ih =>
      rw [List.cons_append, set?_cons, at?_cons]
      cases hc : j.child? s with
      | none => rfl
      | some c =>
          rw [Option.bind_some, Option.bind_some, ih c]
          cases c.at? p with
          | none => rfl
          | some d =>
              rw [Option.bind_some, Option.bind_some]
              cases d.set? q v with
              | none => rfl
              | some e => simp [set?_cons, hc]

variable {j j' : Json} {p q : Path}

theorem at?_set?_append (h : j.set? p v = some j') (q : Path) : j'.at? (p ++ q) = v.at? q := by
  rw [at?_append, at?_set? h, Option.bind_some]

theorem set?_set? (h : j.set? p v = some j') (w : Json) : j'.set? p w = j.set? p w := by
  induction p generalizing j j' with
  | nil => simp [set?]
  | cons s p ih =>
      rw [set?_cons, Option.bind_eq_some_iff] at h
      obtain ⟨c, hc, h⟩ := h
      obtain ⟨d, hd, rfl⟩ := Option.map_eq_some_iff.1 h
      have hchild : (j.setChild s d).child? s = some d := child?_setChild j s d (by simp [hc])
      rw [set?_cons, set?_cons, hchild, hc, Option.bind_some, Option.bind_some, ih hd]
      cases c.set? p w with
      | none => rfl
      | some e => exact congrArg some (setChild_setChild j s d e)

/-- Replacing a node changes nothing of a node off the way that could be told
without looking at its children. -/
theorem map_at?_set? {β : Type _} (φ : Json → β)
    (hφ : ∀ (c : Json) s v, (c.child? s).isSome → φ (c.setChild s v) = φ c)
    (h : j.set? p v = some j') (hq : ¬ p <+: q) : (j'.at? q).map φ = (j.at? q).map φ := by
  induction p generalizing j j' q with
  | nil => exact absurd List.nil_prefix hq
  | cons s p ih =>
      rw [set?_cons, Option.bind_eq_some_iff] at h
      obtain ⟨c, hc, h⟩ := h
      obtain ⟨d, hd, rfl⟩ := Option.map_eq_some_iff.1 h
      have hsome : (j.child? s).isSome := by simp [hc]
      cases q with
      | nil => exact congrArg some (hφ j s d hsome)
      | cons t q =>
          rw [at?_cons, at?_cons]
          by_cases ht : t = s
          · subst ht
            have hq' : ¬ p <+: q := fun hp => hq (List.cons_prefix_cons.2 ⟨rfl, hp⟩)
            rw [child?_setChild j t d hsome, hc, Option.bind_some, Option.bind_some]
            exact ih hd hq'
          · rw [child?_setChild_of_ne j d ht]

theorem kindAt?_set? (h : j.set? p v = some j') (hq : ¬ p <+: q) :
    j'.kindAt? q = j.kindAt? q := by
  have hmap := map_at?_set? kind? (fun c s v _ => kind?_setChild c s v) h hq
  simpa [kindAt?, Option.bind_map] using congrArg (Option.bind · id) hmap

/-! ## Updates -/

/-- Put a value at a step below the container at a path. -/
def putAt? (j : Json) (p : Path) (s : Segment) (v : Json) : Option Json :=
  (j.at? p).bind fun c => (c.putChild s v).toOption.bind (j.set? p)

theorem putAt?_eq_some_iff :
    j.putAt? p s v = some j' ↔
      ∃ c c', j.at? p = some c ∧ c.putChild s v = .ok c' ∧ j.set? p c' = some j' := by
  simp only [putAt?, Option.bind_eq_some_iff, toOption_eq_some_iff]
  constructor
  · rintro ⟨c, hc, c', hput, h⟩
    exact ⟨c, c', hc, hput, h⟩
  · rintro ⟨c, c', hc, hput, h⟩
    exact ⟨c, hc, c', hput, h⟩

theorem insertAt?_eq_some_iff {slot : Slot} :
    j.insertAt? p slot v = some (j', q) ↔
      ∃ c s, j.at? p = some c ∧ c.slotStep? slot = some s ∧ q = p.extend s ∧
        j.putAt? p s v = some j' := by
  simp only [insertAt?, Option.bind_eq_some_iff, Option.map_eq_some_iff, Prod.mk.injEq,
    putAt?_eq_some_iff]
  constructor
  · rintro ⟨c, hc, ⟨c', s⟩, hins, j'', hj, rfl, rfl⟩
    obtain ⟨hs, hput⟩ := (insert?_eq_some_iff ..).1 hins
    exact ⟨c, s, hc, hs, rfl, c, c', hc, hput, hj⟩
  · rintro ⟨c, s, hc, hs, rfl, d, c', hd, hput, hj⟩
    obtain rfl : c = d := by simpa [hc] using hd
    exact ⟨c, hc, (c', s), (insert?_eq_some_iff ..).2 ⟨hs, hput⟩, j', hj, rfl, rfl⟩

theorem insertAt?_isSome_iff {slot : Slot} :
    (j.insertAt? p slot v).isSome ↔ j.kindAt? p = some slot.kind := by
  rw [insertAt?, kindAt?]
  cases hc : j.at? p with
  | none => simp
  | some c =>
      rw [Option.bind_some, Option.bind_some, ← insert?_isSome_iff c slot v]
      cases c.insert? slot v with
      | none => simp
      | some r =>
          simp [set?_isSome_iff, hc]

theorem at?_putAt? (h : j.putAt? p s v = some j') (q : Path) :
    j'.at? (p.extend s ++ q) = v.at? q := by
  obtain ⟨c, c', -, hput, hset⟩ := putAt?_eq_some_iff.1 h
  rw [Path.extend, List.append_assoc, at?_set?_append hset, List.singleton_append, at?_cons,
    child?_putChild hput, Option.bind_some]

theorem at?_putAt?_self (h : j.putAt? p s v = some j') : j'.at? (p.extend s) = some v := by
  simpa using at?_putAt? h []

theorem kindAt?_putAt?_self (h : j.putAt? p s v = some j') : j'.kindAt? (p.extend s) = v.kind? := by
  rw [kindAt?, at?_putAt?_self h, Option.bind_some]

/-- An update changes no kind of a node but where it leads to. -/
theorem kindAt?_putAt? (h : j.putAt? p s v = some j') (hq : ¬ p.extend s <+: q) :
    j'.kindAt? q = j.kindAt? q := by
  obtain ⟨c, c', hc, hput, hset⟩ := putAt?_eq_some_iff.1 h
  by_cases hp : p <+: q
  -- Below `p` the path first goes to a child, which is another one than that at `s`.
  · obtain ⟨r, rfl⟩ := hp
    rw [kindAt?_append, kindAt?_append, at?_set? hset, hc, Option.bind_some, Option.bind_some]
    cases r with
    | nil => exact kind?_putChild hput
    | cons t r =>
        have ht : t ≠ s := by
          rintro rfl
          exact hq ⟨r, by simp [Path.extend]⟩
        rw [kindAt?_cons, kindAt?_cons, child?_putChild_of_ne hput ht]
  · exact kindAt?_set? hset hp

/-! ## Replacing -/

def replace (j : Json) (p : Path) (v : Json) : Json := (j.set? p v).getD j

theorem set?_eq_some_replace (h : (j.at? p).isSome) (v : Json) :
    j.set? p v = some (j.replace p v) := by
  obtain ⟨j', hj'⟩ := Option.isSome_iff_exists.1 ((set?_isSome_iff j p v).2 h)
  simp [replace, hj']

theorem at?_replace_append (h : (j.at? p).isSome) (v : Json) (q : Path) :
    (j.replace p v).at? (p ++ q) = v.at? q :=
  at?_set?_append (set?_eq_some_replace h v) q

theorem set?_replace_append (h : (j.at? p).isSome) (v : Json) (q : Path) (w : Json) :
    (j.replace p v).set? (p ++ q) w = (v.set? q w).map (j.replace p) := by
  have hset := set?_eq_some_replace h v
  rw [set?_append, at?_set? hset, Option.bind_some]
  cases v.set? q w with
  | none => rfl
  | some u => exact (set?_set? hset u).trans (set?_eq_some_replace h u)

/-- Below `p`, a document that is replaced at `p` is updated as what replaces it. -/
theorem putAt?_replace (h : (j.at? p).isSome) (v : Json) (q : Path) (s : Segment) (w : Json) :
    (j.replace p v).putAt? (p ++ q) s w = (v.putAt? q s w).map (j.replace p) := by
  rw [putAt?, putAt?, at?_replace_append h]
  cases v.at? q with
  | none => rfl
  | some c =>
      cases hput : c.putChild s w with
      | error => simp [hput, Except.toOption]
      | ok c' => simpa [hput, Except.toOption] using set?_replace_append h v q c'

theorem insertAt?_replace (h : (j.at? p).isSome) (v : Json) (q : Path) (slot : Slot) (w : Json) :
    (j.replace p v).insertAt? (p ++ q) slot w =
      (v.insertAt? q slot w).map fun (v', r) => (j.replace p v', p ++ r) := by
  rw [insertAt?, insertAt?, at?_replace_append h]
  cases v.at? q with
  | none => rfl
  | some c =>
      rw [Option.bind_some, Option.bind_some]
      cases c.insert? slot w with
      | none => rfl
      | some r =>
          simp only [Option.bind_some, set?_replace_append h, Option.map_map]
          simp [Function.comp_def, Path.extend]

/-- What has been put somewhere may as well be put there in place of another value. -/
theorem putAt?_eq_replace (h : j.putAt? p s v = some j') (w : Json) :
    j.putAt? p s w = some (j'.replace (p.extend s) w) := by
  obtain ⟨c, c', hc, hput, hset⟩ := putAt?_eq_some_iff.1 h
  have hset' : j'.set? (p.extend s) w = j.set? p (c'.setChild s w) := by
    rw [Path.extend, set?_append, at?_set? hset, Option.bind_some, set?_cons,
      child?_putChild hput]
    simpa [set?] using set?_set? hset (c'.setChild s w)
  have hsome : (j'.at? (p.extend s)).isSome := by simp [at?_putAt?_self h]
  rw [putAt?, hc, Option.bind_some, putChild_of_putChild hput w]
  exact hset'.symm.trans (set?_eq_some_replace hsome w)

end Json

end Exemplar
