import Exemplar.Proofs.Builder.Inline
import Exemplar.Proofs.Document.Steps

/-!
# Grafts at a path

A graft at a path does not ask what is open. Its target may lie inside of an open
container, beside one or around one, and it may be anything, also a path that leads
nowhere. `Builder.Accepts` says which targets are good, without the order in which they
are tested: the parent of the target is a container that has room at the last step, and
no open container lies at or behind the target.

A graft at such a path is an update of the document at one point. What is off the way to
the target stays what it was, and so do the open containers, of which none lies behind
it. An array that is open may have got longer, and calls that come later go on behind its
new end, because its length is looked up and not remembered.

The slots of the current container are targets like others. Their paths are accepted, as
no open container lies behind the innermost one, so a graft into a slot may be made at the
path of the slot instead.
-/

namespace Exemplar

open Builder

namespace Json

theorem kind?_of_slotStep? {c : Json} {slot : Slot} {s : Segment} (h : c.slotStep? slot = some s) :
    c.kind? = some slot.kind := by
  cases c <;> cases slot <;> cases h <;> rfl

/-- A container has room for a child at a step: at every key of an object, and at every
position of an array up to the one behind its last element. -/
def HasRoom : Json → Segment → Prop
  | .obj _, .key _ => True
  | .arr items, .index i => i ≤ items.length
  | _, _ => False

variable {j c : Json} {p : Path} {s : Segment}

theorem exists_putChild_iff (v : Json) : (∃ c', c.putChild s v = .ok c') ↔ c.HasRoom s := by
  cases c <;> cases s <;> simp [putChild, HasRoom]
  case arr.index items i =>
    by_cases hlt : i < items.length
    · simp [hlt, Nat.le_of_lt hlt]
    · by_cases heq : i = items.length
      · simp [heq]
      · simp [hlt, heq, Nat.le_iff_lt_or_eq]

theorem exists_putAt?_iff (v : Json) :
    (∃ j', j.putAt? p s v = some j') ↔ ∃ c, j.at? p = some c ∧ c.HasRoom s := by
  constructor
  · rintro ⟨j', h⟩
    obtain ⟨c, c', hc, hput, -⟩ := putAt?_eq_some_iff.1 h
    exact ⟨c, hc, (exists_putChild_iff v).1 ⟨c', hput⟩⟩
  · rintro ⟨c, hc, hroom⟩
    obtain ⟨c', hput⟩ := (exists_putChild_iff v).2 hroom
    have hset := set?_eq_some_replace (by simp [hc] : (j.at? p).isSome) c'
    exact ⟨_, putAt?_eq_some_iff.2 ⟨c, c', hc, hput, hset⟩⟩

end Json

namespace Builder

/-- A path at which something can be put. It has a parent, so it is not the root. -/
structure Accepts (b : Builder) (target : Path) : Prop where
  /-- No open container is at the path or behind it. -/
  free : ∀ f ∈ b.frames, ¬ target <+: f.path
  /-- The parent is there and has room. -/
  room : ∃ p s c, target = p.extend s ∧ b.document.at? p = some c ∧ c.HasRoom s

variable {b b' : Builder} {target : Path}

theorem exists_documentWith_iff (v : Json) :
    (∃ document, b.documentWith target v = .ok document) ↔ b.Accepts target := by
  simp only [documentWith_eq_ok_iff]
  constructor
  · rintro ⟨document, p, s, htarget, hfree, hput⟩
    obtain ⟨c, hc, hroom⟩ := (Json.exists_putAt?_iff v).1 ⟨document, hput⟩
    exact ⟨hfree, p, s, c, htarget, hc, hroom⟩
  · rintro ⟨hfree, p, s, c, htarget, hc, hroom⟩
    obtain ⟨document, hput⟩ := (Json.exists_putAt?_iff v).2 ⟨c, hc, hroom⟩
    exact ⟨document, p, s, htarget, hfree, hput⟩

theorem run_graftAt_eq_ok_iff {t : Subtree} (hp : b.poisoned = false) :
    (Op.graftAt target t).run b = ⟨b', none⟩ ↔
      b.perform? (.writeAt target t.document t.registry.notes) = some b' := by
  rw [Op.run, guard_eq_ok_iff, graftAt_eq_ok_iff]
  exact and_iff_right hp

/-- A graft gets through if its target is accepted. -/
theorem exists_run_graftAt_iff (t : Subtree) (hp : b.poisoned = false) :
    (∃ b', (Op.graftAt target t).run b = ⟨b', none⟩) ↔ b.Accepts target := by
  simp only [run_graftAt_eq_ok_iff hp, perform?_writeAt_eq_some_iff,
    ← exists_documentWith_iff t.document]
  constructor
  · rintro ⟨b', document, h, -⟩
    exact ⟨document, h⟩
  · rintro ⟨document, h⟩
    exact ⟨_, document, h, rfl⟩

/-- A graft whose target is not accepted is refused, and the refusal names the target. -/
theorem run_graftAt_of_not_accepts (t : Subtree) (hp : b.poisoned = false)
    (h : ¬ b.Accepts target) :
    ∃ fault, (Op.graftAt target t).run b =
      ⟨{ b with poisoned := true }, some (.refused (.graftTarget target fault))⟩ := by
  cases hdoc : b.documentWith target t.document with
  | ok document => exact absurd ((exists_documentWith_iff _).1 ⟨document, hdoc⟩) h
  | error fault =>
      refine ⟨fault, ?_⟩
      rw [Op.run, guard, hp, graftAt_apply, hdoc]
      rfl

/-- A call that writes to the next position of an open array gets through, and the value
is behind all elements that the array has. -/
theorem Framed.run_write_next (h : b.Framed) (hp : b.poisoned = false)
    (hk : b.current.kind = .array) :
    ∃ items, b.document.at? b.current.path = some (.arr items) ∧
      ∀ (op : Op) v notes opens?, op.Does b (.write .next v notes opens?) →
        ∃ b', op.run b = ⟨b', none⟩ ∧
          b'.document.at? (b.current.path.extend (.index items.length)) = some v := by
  obtain ⟨c, hc, hkind⟩ := h.exists_current
  rw [hk] at hkind
  cases c <;> cases hkind
  case arr.refl items =>
    refine ⟨items, hc, fun op v notes opens? hd => ?_⟩
    have hslot : Slot.next.kind = b.current.kind := hk.symm
    obtain ⟨b', hwrite⟩ := exists_perform_write h hslot v notes opens?
    refine ⟨b', Op.run_eq_ok_iff.2 ⟨hp, _, hd, hwrite⟩, ?_⟩
    obtain ⟨document, p, hins, rfl⟩ := perform?_write_eq_some_iff.1 hwrite
    obtain ⟨c, s, hc', hstep, -, hput⟩ := Json.insertAt?_eq_some_iff.1 hins
    cases Option.some.inj (hc.symm.trans hc')
    cases hstep
    exact Json.at?_putAt?_self hput

/-- No open container is at a slot of the current one, so what is put into a slot may as
well be put at the path of the slot. -/
theorem Framed.perform_write_eq_writeAt (h : b.Framed) {c : Json} {slot : Slot} {s : Segment}
    (hc : b.document.at? b.current.path = some c) (hs : c.slotStep? slot = some s) (v : Json)
    (notes : List Note) :
    b.perform? (.write slot v notes none) =
      b.perform? (.writeAt (b.current.path.extend s) v notes) := by
  have hfree : ∀ f ∈ b.frames, ¬ b.current.path.extend s <+: f.path := fun f hf =>
    h.not_extend_prefix (List.mem_append_left _ hf) s
  ext b'
  simp only [perform?_write_eq_some_iff, perform?_writeAt_eq_some_iff,
    Json.insertAt?_eq_some_iff, documentWith_eq_ok_iff]
  constructor
  · rintro ⟨document, p, ⟨c', s', hc', hs', rfl, hput⟩, rfl⟩
    obtain rfl : c = c' := Option.some.inj (hc.symm.trans hc')
    obtain rfl : s = s' := Option.some.inj (hs.symm.trans hs')
    exact ⟨document, ⟨b.current.path, s, rfl, hfree, hput⟩, rfl⟩
  · rintro ⟨document, ⟨p, s', heq, -, hput⟩, rfl⟩
    obtain ⟨rfl, rfl⟩ : b.current.path = p ∧ s = s' := by simpa [Path.extend] using heq
    exact ⟨document, _, ⟨c, s, hc, hs, rfl, hput⟩, rfl⟩

/-- A graft into a slot of the current container gets through, and so does the one at the
path of the slot, to the same builder. -/
theorem Framed.exists_run_graft (h : b.Framed) (hp : b.poisoned = false) {c : Json} {slot : Slot}
    {s : Segment} (hc : b.document.at? b.current.path = some c) (hs : c.slotStep? slot = some s)
    (t : Subtree) :
    ∃ b', (Op.graft slot t).run b = ⟨b', none⟩ ∧
      (Op.graftAt (b.current.path.extend s) t).run b = ⟨b', none⟩ := by
  have hslot : slot.kind = b.current.kind := by
    have hkind : c.kind? = some b.current.kind := by
      simpa [Json.kindAt?, hc] using h.kindAt_current
    exact Option.some.inj ((Json.kind?_of_slotStep? hs).symm.trans hkind)
  obtain ⟨b', hwrite⟩ := exists_perform_write h hslot t.document t.registry.notes none
  refine ⟨b', Op.run_eq_ok_iff.2 ⟨hp, _, .graft slot t, hwrite⟩, ?_⟩
  rw [h.perform_write_eq_writeAt hc hs] at hwrite
  exact (run_graftAt_eq_ok_iff hp).2 hwrite

end Builder

/-- A graft at a path gets through exactly where the path has a parent with room for it
and no open container lies at it or behind it; otherwise it is refused with the path as
the reason, and nothing happens. If it gets through, the subtree is at the path. All
nodes off the way to it are as they were, or still not there. A node on the way keeps
its kind and the steps to its children in order, where only the parent can get one more,
at the end. The same containers are open as before and are still there, and a call that
writes to the next position of an open array writes behind all that the array has now. -/
theorem graftAt_updates_one_point {b : Builder} (hb : b.Reachable) (hp : b.poisoned = false)
    (target : Path) (t : Subtree) :
    ((∃ b', (Op.graftAt target t).run b = ⟨b', none⟩) ↔ b.Accepts target) ∧
    (¬ b.Accepts target → ∃ fault, (Op.graftAt target t).run b =
      ⟨{ b with poisoned := true }, some (.refused (.graftTarget target fault))⟩) ∧
    ∀ (b' : Builder) (p : Path) (s : Segment),
      (Op.graftAt target t).run b = ⟨b', none⟩ → target = p.extend s →
      b'.document.at? target = some t.document ∧
      (∀ q, ¬ target <+: q → ¬ q <+: target → b'.document.at? q = b.document.at? q) ∧
      (∀ q, q <+: p →
        b'.document.kindAt? q = b.document.kindAt? q ∧
        b'.document.stepsAt? q =
          if q = p then (b.document.stepsAt? q).map (Json.addStep s)
          else b.document.stepsAt? q) ∧
      b'.frames = b.frames ∧ b'.depth = b.depth ∧ b'.current = b.current ∧
      (∀ f ∈ b'.openFrames, b'.document.kindAt? f.path = some f.kind) ∧
      (b'.current.kind = .array →
        ∃ items, b'.document.at? b'.current.path = some (.arr items) ∧
          ∀ (op : Op) v notes opens?, op.Does b' (.write .next v notes opens?) →
            ∃ b'', op.run b' = ⟨b'', none⟩ ∧
              b''.document.at? (b'.current.path.extend (.index items.length)) = some v) := by
  refine ⟨exists_run_graftAt_iff t hp, run_graftAt_of_not_accepts t hp, ?_⟩
  rintro b' p s hrun rfl
  have hframed : b'.Framed := by
    have h := (Framed.of_reachable hb).run (.graftAt (p.extend s) t)
    rwa [hrun] at h
  have hperform := (run_graftAt_eq_ok_iff hp).1 hrun
  have hp' : b'.poisoned = false := (config_of_perform hperform).2.2.trans hp
  -- The containers are in place behind the graft too, so the next position is the true one.
  have hnext := hframed.run_write_next hp'
  obtain ⟨document, hdoc, rfl⟩ := perform?_writeAt_eq_some_iff.1 hperform
  obtain ⟨p', s', heq, -, hput⟩ := documentWith_eq_ok_iff.1 hdoc
  obtain ⟨rfl, rfl⟩ : p = p' ∧ s = s' := by simpa [Path.extend] using heq
  refine ⟨Json.at?_putAt?_self hput, ?_, ?_, rfl, rfl, rfl, hframed.kindAt, hnext⟩
  · intro q hq hon
    have hon' : ¬ q <+: p := fun h => hon (h.trans ⟨[s], rfl⟩)
    exact Json.at?_putAt?_of_not_prefix hput hq hon'
  · exact fun q hq => Json.nodes_on_way_putAt? hput hq

def growingList : Builder :=
  (new .object {}).after [.booleanValue (.key "done") false, .pushArray (.key "xs"),
    .nullValue .next]

def grown : Subtree := .ofGenerated (.matched (.bool true) .exactType)

theorem accepts_growingList : growingList.Accepts [.key "xs", .index 1] where
  free := by
    intro f hf
    obtain rfl : f = ⟨.array, [.key "xs"]⟩ := List.mem_singleton.1 hf
    decide
  room := ⟨[.key "xs"], .index 1, .arr [.null], rfl, rfl, Nat.le_refl 1⟩

theorem not_accepts_growingList : ¬ growingList.Accepts [.key "xs"] := fun h =>
  h.free ⟨.array, [.key "xs"]⟩ (List.mem_singleton_self _) (List.prefix_refl _)

theorem graftAt_updates_one_point_of_growingList :
    growingList.Reachable ∧ growingList.poisoned = false ∧
    (∃ b' b'' : Builder, (Op.graftAt [.key "xs", .index 1] grown).run growingList = ⟨b', none⟩ ∧
      b'.document.at? [.key "xs", .index 1] = some (.bool true) ∧
      b'.document.at? [.key "done"] = some (.bool false) ∧
      b'.document.stepsAt? [.key "xs"] = some [.index 0, .index 1] ∧
      (Op.nullValue .next).run b' = ⟨b'', none⟩ ∧
      b''.document.at? [.key "xs", .index 2] = some .null) ∧
    ∃ fault, (Op.graftAt [.key "xs"] grown).run growingList =
      ⟨{ growingList with poisoned := true },
        some (.refused (.graftTarget [.key "xs"] fault))⟩ := by
  have hb : growingList.Reachable := ⟨.object, {}, _, rfl⟩
  have hinside := graftAt_updates_one_point hb rfl [.key "xs", .index 1] grown
  have haround := graftAt_updates_one_point hb rfl [.key "xs"] grown
  refine ⟨hb, rfl, ?_, haround.2.1 not_accepts_growingList⟩
  obtain ⟨b', hrun⟩ := hinside.1.2 accepts_growingList
  obtain ⟨hat, hoff, hway, -, -, hcurrent, -, hnext⟩ :=
    hinside.2.2 b' [.key "xs"] (.index 1) hrun rfl
  have hpath : b'.current = ⟨.array, [.key "xs"]⟩ := hcurrent
  have hsteps : b'.document.stepsAt? [.key "xs"] = some [.index 0, .index 1] :=
    (hway [.key "xs"] (List.prefix_refl _)).2
  obtain ⟨items, hitems, hwrite⟩ := hnext (by rw [hpath])
  rw [hpath] at hitems hwrite
  have hlength : items.length = 2 := by
    have h : some (Json.arr items).steps = some [.index 0, .index 1] := by
      rw [← hsteps, Json.stepsAt?, hitems, Option.map_some]
    simpa [Json.steps] using congrArg (Option.map List.length) h
  have hnull : Op.Does b' (.nullValue .next) (.write .next .null [] none) :=
    .put (v := .exact .null) "null_value" .next rfl
  obtain ⟨b'', hrun', hat'⟩ := hwrite _ _ _ _ hnull
  rw [hlength] at hat'
  exact ⟨b', b'', hrun, hat, hoff _ (by decide) (by decide), hsteps, hrun', hat'⟩

/-- A graft into the current container is a graft at a path. Under a key of an object, used
or not, and behind the elements of an array, both get through and lead to the same builder,
with the same document, rules and open containers. -/
theorem graft_agrees_with_graftAt {b : Builder} (hb : b.Reachable) (hp : b.poisoned = false)
    (t : Subtree) :
    (b.current.kind = .object → ∀ key, ∃ b', (Op.graft (.key key) t).run b = ⟨b', none⟩ ∧
      (Op.graftAt (b.current.path.extend (.key key)) t).run b = ⟨b', none⟩) ∧
    (b.current.kind = .array →
      ∃ items, b.document.at? b.current.path = some (.arr items) ∧
        ∃ b', (Op.graft .next t).run b = ⟨b', none⟩ ∧
          (Op.graftAt (b.current.path.extend (.index items.length)) t).run b = ⟨b', none⟩) := by
  have hframed : b.Framed := .of_reachable hb
  obtain ⟨c, hc, hkind⟩ := hframed.exists_current
  constructor
  · intro hobject key
    rw [hobject] at hkind
    cases c <;> cases hkind
    exact hframed.exists_run_graft hp hc rfl t
  · intro harray
    rw [harray] at hkind
    cases c <;> cases hkind
    exact ⟨_, hc, hframed.exists_run_graft hp hc rfl t⟩

/-- A builder with an open object in an array, in which a key is used that has a rule. -/
def labelledRow : Builder :=
  (new .array {}).after [.nullValue .next, .pushObject .next, .stringType (.key "a") none,
    .nullValue (.key "b")]

theorem graft_agrees_with_graftAt_of_labelledRow :
    labelledRow.Reachable ∧ labelledRow.poisoned = false ∧
    growingList.Reachable ∧ growingList.poisoned = false ∧
    (∃ b' : Builder, (Op.graft (.key "a") grown).run labelledRow = ⟨b', none⟩ ∧
      (Op.graftAt [.index 1, .key "a"] grown).run labelledRow = ⟨b', none⟩ ∧
      b'.document.at? [.index 1] = some (.obj [("a", .bool true), ("b", .null)]) ∧
      b'.registry.at? [.index 1, .key "a"] = some [.exactType, .exactType]) ∧
    ∃ b' : Builder, (Op.graft .next grown).run growingList = ⟨b', none⟩ ∧
      (Op.graftAt [.key "xs", .index 1] grown).run growingList = ⟨b', none⟩ := by
  have hrow : labelledRow.Reachable := ⟨.array, {}, _, rfl⟩
  have hlist : growingList.Reachable := ⟨.object, {}, _, rfl⟩
  obtain ⟨b', hgraft, hat⟩ := (graft_agrees_with_graftAt hrow rfl grown).1 rfl "a"
  obtain ⟨items, hitems, hnext⟩ := (graft_agrees_with_graftAt hlist rfl grown).2 rfl
  refine ⟨hrow, rfl, hlist, rfl, ⟨b', hgraft, hat, ?_, ?_⟩, ?_⟩
  · cases hgraft
    rfl
  · cases hgraft
    rfl
  · cases hitems
    exact hnext

end Exemplar
