import Exemplar.Proofs.Builder.Inline
import Exemplar.Proofs.Builder.Log

/-!
# Rules inside of arrays

The rules of the elements of an array do not say what they are inside of. When an element
has an array of this kind inside of it in turn, its rules move along with a wildcard in
front, so that a rule ends up with one wildcard for each of the arrays around it.
`Subtree.Gives` follows a rule on this way from the call that has given it, and counts the
arrays. The rule is in the registry then, at a path with so many wildcards; and whatever
rule is there has been given by a call.
-/

namespace Exemplar

open Builder

/-! ## Registries that have come about by calls -/

theorem Builder.grouped_after (kind : Kind) (config : Config) (ops : List Op) :
    ((new kind config).after ops).registry.Grouped := by
  refine after_induction (P := fun b => b.registry.Grouped) .empty ?_ ops
  intro b op hb
  rcases op.run_builder_cases b with ⟨d, -, hd⟩ | hrun | hrun
  · exact grouped_of_perform hb hd
  · rwa [hrun]
  · rwa [hrun]

namespace Subtree

theorem grouped_ofGenerated (g : Generated) : (Subtree.ofGenerated g).registry.Grouped := by
  cases hr : g.rule? with
  | none => simpa [Subtree.ofGenerated, hr] using Registry.Grouped.empty
  | some rule =>
      simpa [Subtree.ofGenerated, Registry.add, hr] using
        Registry.Grouped.empty.push rule (Registry.rooted_render .root)

theorem grouped_of_finish {kind : Kind} {config : Config} {ops : List Op} {s : Subtree}
    (hs : ((new kind config).after ops).finish = .ok s) : s.registry.Grouped := by
  rw [(finish_eq_ok_iff.1 hs).2.2]
  exact grouped_after kind config ops

theorem Built.grouped {s : Subtree} (h : s.Built) : s.registry.Grouped := by
  cases h with
  | value g => exact grouped_ofGenerated g
  | finished _ hs => exact grouped_of_finish hs

end Subtree

theorem Element.grouped_of_realize {config : Config} {element : Element} {s : Subtree}
    (h : element.realize config = .ok s) (hs : ∀ t ∈ element.subtrees, t.Built) :
    s.registry.Grouped := by
  cases element with
  | value g =>
      obtain ⟨v, -, rfl⟩ := Element.realize_value_eq_ok_iff.1 h
      exact Subtree.grouped_ofGenerated v
  | subtree t =>
      cases h
      exact (hs s (by simp [Element.subtrees])).grouped
  | template kind calls lenient => exact Subtree.grouped_of_finish (Element.finish_of_realize h)

/-! ## Rules and the arrays around them -/

mutual

/-- A rule has been given for a path by the calls that a subtree has come from, inside of
so many arrays that are described by their elements. -/
inductive Subtree.Gives : Subtree → Nat → Path → Rule → Prop
  | value {g : Generated} {rule : Rule} (h : g.rule? = some rule) :
    Subtree.Gives (.ofGenerated g) 0 .root rule
  | call {kind : Kind} {config : Config} {earlier later : List Op} {op : Op} {s : Subtree}
    {k : Nat} {q : Path} {rule : Rule}
    (hf : (op.run ((new kind config).after earlier)).failure? = none)
    (h : Op.Gives ((new kind config).after earlier) op k q rule)
    (hs : ((new kind config).after (earlier ++ op :: later)).finish = .ok s) :
    Subtree.Gives s k q rule

inductive Op.Gives : Builder → Op → Nat → Path → Rule → Prop
  | put {b : Builder} (call : String) {slot : Slot} {g : Generator} {v : Generated} {p : Path}
    {rule : Rule} (hv : g.make b.config = .ok v) (hp : b.slotPath? slot = some p)
    (h : v.rule? = some rule) : Op.Gives b (.put call slot g) 0 p rule
  | putNamed {b : Builder} (call : String) {name : String} {g : Generator} {v : Generated}
    {p : Path} {rule : Rule} (hv : g.make b.config = .ok v)
    (hp : b.slotPath? (b.defaultSlot name) = some p) (h : v.rule? = some rule) :
    Op.Gives b (.putNamed call name g) 0 p rule
  | add {b : Builder} {slot : Slot} {g : Generator} {v : Generated} {p : Path} {rule : Rule}
    (hv : g.make b.config = .ok v) (hp : b.slotPath? slot = some p) (h : v.rule? = some rule) :
    Op.Gives b (.add slot g) 0 p rule
  | eachKey (b : Builder) (rules : List Rule) (example? : Option String) :
    Op.Gives b (.eachKey rules example?) 0 b.current.path (.eachKey rules example?)
  | array {b : Builder} {slot : Slot} {c : Cardinality} (element : Element) {p : Path}
    {rule : Rule} (hp : b.slotPath? slot = some p) (h : rule ∈ c.rules) :
    Op.Gives b (.arrayLike slot c element) 0 p rule
  | element {b : Builder} {slot : Slot} (c : Cardinality) {element : Element} {s : Subtree}
    {p : Path} {k : Nat} {q : Path} {rule : Rule} (hp : b.slotPath? slot = some p)
    (hs : element.realize b.config = .ok s) (h : Subtree.Gives s k q rule) :
    Op.Gives b (.arrayLike slot c element) (k + 1) (p.extend .wildcard ++ q) rule
  | graft {b : Builder} {slot : Slot} {s : Subtree} {p : Path} {k : Nat} {q : Path} {rule : Rule}
    (hp : b.slotPath? slot = some p) (h : Subtree.Gives s k q rule) :
    Op.Gives b (.graft slot s) k (p ++ q) rule
  | graftAt (b : Builder) (target : Path) {s : Subtree} {k : Nat} {q : Path} {rule : Rule}
    (h : Subtree.Gives s k q rule) : Op.Gives b (.graftAt target s) k (target ++ q) rule

end

/-! ## A rule is where it has been given for -/

/-- A rule is among notes at a path that has so many wildcards. -/
def Noted (l : List Note) (k : Nat) (q : Path) (rule : Rule) : Prop :=
  (q.render, rule) ∈ l ∧ q.count .wildcard = k

namespace Noted

variable {l : List Note} {k : Nat} {q : Path} {rule : Rule}

theorem under (h : Noted l k q rule) {p : Path} (hp : .wildcard ∉ p) :
    Noted (l.map (Note.under p)) k (p ++ q) rule where
  left := by
    rw [← Note.under_render]
    exact List.mem_map_of_mem h.1
  right := by rw [List.count_append, List.count_eq_zero_of_not_mem hp, h.2, Nat.zero_add]

theorem of_root {g : Generated} (h : g.rule? = some rule) : Noted g.notes 0 .root rule :=
  ⟨by simp [Generated.notes, Rule.note, h], rfl⟩

theorem array {c : Cardinality} (h : rule ∈ c.rules) (s : Subtree) :
    Noted (c.notes s) 0 .root rule :=
  ⟨List.mem_append_left _ (List.mem_map_of_mem h), rfl⟩

theorem element {s : Subtree} (h : Noted s.registry.notes k q rule) (c : Cardinality) :
    Noted (c.notes s) (k + 1) (.wildcard :: q) rule where
  left := by
    have hmem := List.mem_map_of_mem (f := Note.under [.wildcard]) h.1
    rw [Note.under_render] at hmem
    exact List.mem_append_right _ hmem
  right := by rw [List.count_cons_self, h.2]

end Noted

namespace Builder

variable {b b' : Builder} {k : Nat} {p q : Path} {rule : Rule}

theorem wildcard_notMem_of_write {slot : Slot} {v : Json} {notes : List Note}
    {opens? : Option Kind} (h : b.perform? (.write slot v notes opens?) = some b')
    (hp : b.slotPath? slot = some p) : .wildcard ∉ p := by
  obtain ⟨document, p', hins, rfl⟩ := perform?_write_eq_some_iff.1 h
  obtain rfl : p = p' := Option.some.inj (hp.symm.trans (slotPath?_of_insertAt? hins))
  obtain ⟨c, s, -, -, rfl, hput⟩ := Json.insertAt?_eq_some_iff.1 hins
  exact Json.wildcard_notMem (Option.isSome_iff_exists.2 ⟨_, Json.at?_putAt?_self hput⟩)

theorem mem_rulesAt_of_write {slot : Slot} {v : Json} {notes : List Note} {opens? : Option Kind}
    (h : b.perform? (.write slot v notes opens?) = some b') (hp : b.slotPath? slot = some p)
    (hnoted : Noted notes k q rule) :
    rule ∈ b'.registry.rulesAt (p ++ q) ∧ (p ++ q).count .wildcard = k := by
  obtain ⟨hmem, hcount⟩ := hnoted.under (wildcard_notMem_of_write h hp)
  rw [registry_of_write h hp, Registry.rulesAt_pushAll]
  exact ⟨List.mem_append_right _ (Registry.mem_rulesFor.2 hmem), hcount⟩

end Builder

mutual

/-- A rule that the calls of a subtree have given is in its registry, at a path that has
one wildcard for each of the arrays around it. -/
theorem Subtree.Gives.noted {s : Subtree} {k : Nat} {q : Path} {rule : Rule} :
    s.Gives k q rule → Noted s.registry.notes k q rule
  | .value h => by
      rename_i g
      refine ⟨?_, rfl⟩
      simp [Subtree.ofGenerated, Registry.add, Registry.push, Registry.notes, Entries.alter, h]
  | .call hf h hs => by
      rename_i kind config earlier later op
      obtain ⟨hmem, hcount⟩ := h.mem_rulesAt ⟨kind, config, earlier, rfl⟩ hf
      have hgrouped := Subtree.grouped_of_finish hs
      obtain ⟨notes, hlater⟩ := exists_registry_after
        (op.run ((new kind config).after earlier)).builder later
      rw [← after_cons, ← after_append] at hlater
      have hrule : rule ∈ s.registry.rulesAt q := by
        rw [(finish_eq_ok_iff.1 hs).2.2, hlater, Registry.rulesAt_pushAll]
        exact List.mem_append_left _ hmem
      refine ⟨Registry.mem_rulesFor.1 ?_, hcount⟩
      rwa [hgrouped.rulesFor_notes]

theorem Op.Gives.mem_rulesAt {b : Builder} {op : Op} {k : Nat} {q : Path} {rule : Rule}
    (hb : b.Reachable) (hf : (op.run b).failure? = none) :
    Op.Gives b op k q rule →
      rule ∈ (op.run b).builder.registry.rulesAt q ∧ q.count .wildcard = k
  | .put call hv hp h => by
      obtain ⟨d, hd, hwrite⟩ := Op.exists_deed hf
      cases hd with
      | put _ _ hw =>
          cases Except.ok.inj (hw.symm.trans hv)
          simpa [Path.root] using mem_rulesAt_of_write hwrite hp (.of_root h)
  | .putNamed call hv hp h => by
      obtain ⟨d, hd, hwrite⟩ := Op.exists_deed hf
      cases hd with
      | putNamed _ _ hw =>
          cases Except.ok.inj (hw.symm.trans hv)
          simpa [Path.root] using mem_rulesAt_of_write hwrite hp (.of_root h)
  | .add hv hp h => by
      obtain ⟨d, hd, hwrite⟩ := Op.exists_deed hf
      cases hd with
      | add _ hw =>
          cases Except.ok.inj (hw.symm.trans hv)
          simpa [Path.root] using mem_rulesAt_of_write hwrite hp (.of_root h)
  | .eachKey b rules example? => by
      obtain ⟨d, hd, hnote⟩ := Op.exists_deed hf
      cases hd
      rw [← Option.some.inj hnote, Registry.rulesAt_pushAll]
      have hcurrent := (Framed.of_reachable hb).kindAt_current
      refine ⟨List.mem_append_right _ (Registry.mem_rulesFor.2 ?_), ?_⟩
      · simp [Rule.under_note]
      · exact List.count_eq_zero_of_not_mem
          (Json.wildcard_notMem (Json.isSome_at?_of_kindAt? hcurrent))
  | .array element hp h => by
      obtain ⟨d, hd, hwrite⟩ := Op.exists_deed hf
      cases hd with
      | arrayLike _ hc hs =>
          simpa [Path.root] using mem_rulesAt_of_write hwrite hp (.array h _)
  | .element c hp hs h => by
      -- The element comes first, so that the call is seen to be on a smaller derivation.
      have ih := h.noted
      obtain ⟨d, hd, hwrite⟩ := Op.exists_deed hf
      cases hd with
      | arrayLike _ hc hmade =>
          cases Except.ok.inj (hmade.symm.trans hs)
          simpa [Path.extend] using mem_rulesAt_of_write hwrite hp (ih.element c)
  | .graft hp h => by
      have ih := h.noted
      obtain ⟨d, hd, hwrite⟩ := Op.exists_deed hf
      cases hd
      exact mem_rulesAt_of_write hwrite hp ih
  | .graftAt b target h => by
      have ih := h.noted
      obtain ⟨d, hd, hwrite⟩ := Op.exists_deed hf
      cases hd
      obtain ⟨document, hdoc, hwrite⟩ := perform?_writeAt_eq_some_iff.1 hwrite
      obtain ⟨p, s, rfl, -, hput⟩ := documentWith_eq_ok_iff.1 hdoc
      have hwild : .wildcard ∉ p.extend s :=
        Json.wildcard_notMem (Option.isSome_iff_exists.2 ⟨_, Json.at?_putAt?_self hput⟩)
      obtain ⟨hmem, hcount⟩ := ih.under hwild
      rw [← hwrite, Registry.rulesAt_pushAll]
      exact ⟨List.mem_append_right _ (Registry.mem_rulesFor.2 hmem), hcount⟩

end

/-! ## Every rule has been given -/

theorem Generated.of_mem_log {g : Generated} {p q : Path} {rule : Rule}
    (h : (q, rule) ∈ g.log p) : q = p ∧ g.rule? = some rule := by
  rw [Generated.log, List.mem_map] at h
  obtain ⟨other, hother, heq⟩ := h
  cases heq
  exact ⟨rfl, Option.mem_toList.1 hother⟩

theorem Log.exists_of_mem_under {l : Log} {p q : Path} {rule : Rule} (h : (q, rule) ∈ l.under p) :
    ∃ q', q = p ++ q' ∧ (q', rule) ∈ l := by
  obtain ⟨⟨q', other⟩, hmem, heq⟩ := List.mem_map.1 h
  cases heq
  exact ⟨q', rfl, hmem⟩

mutual

theorem Subtree.HasLog.gives {s : Subtree} {l : Log} {q : Path} {rule : Rule} :
    s.HasLog l → (q, rule) ∈ l → ∃ k, s.Gives k q rule
  | .value g, h => by
      obtain ⟨rfl, hrule⟩ := Generated.of_mem_log h
      exact ⟨0, .value hrule⟩
  | .finished hl hs, h => by
      obtain ⟨earlier, op, later, k, rfl, hf, hop⟩ := hl.gives h
      exact ⟨k, .call hf hop hs⟩

theorem Builder.HasLog.gives {b : Builder} {ops : List Op} {l : Log} {q : Path} {rule : Rule} :
    b.HasLog ops l → (q, rule) ∈ l →
      ∃ earlier op later k, ops = earlier ++ op :: later ∧
        (op.run (b.after earlier)).failure? = none ∧ Op.Gives (b.after earlier) op k q rule
  | .nil b, h => by cases h
  | .failed hf hl, h => by
      obtain ⟨earlier, op, later, k, rfl, hok, hop⟩ := hl.gives h
      exact ⟨_ :: earlier, op, later, k, rfl, hok, hop⟩
  | .made hf hl hrest, h => by
      rcases List.mem_append.1 h with h | h
      · obtain ⟨k, hop⟩ := hl.gives hf h
        exact ⟨[], _, _, k, rfl, hf, hop⟩
      · obtain ⟨earlier, op, later, k, rfl, hok, hop⟩ := hrest.gives h
        exact ⟨_ :: earlier, op, later, k, rfl, hok, hop⟩

theorem Op.HasLog.gives {b : Builder} {op : Op} {l : Log} {q : Path} {rule : Rule}
    (hf : (op.run b).failure? = none) :
    Op.HasLog b op l → (q, rule) ∈ l → ∃ k, Op.Gives b op k q rule
  | .opening b call kind slot, h => by cases h
  | .closing b call expected?, h => by cases h
  | .put call hv hp, h => by
      obtain ⟨rfl, hrule⟩ := Generated.of_mem_log h
      exact ⟨0, .put call hv hp hrule⟩
  | .putNamed call hv hp, h => by
      obtain ⟨rfl, hrule⟩ := Generated.of_mem_log h
      exact ⟨0, .putNamed call hv hp hrule⟩
  | .add hv hp, h => by
      obtain ⟨rfl, hrule⟩ := Generated.of_mem_log h
      exact ⟨0, .add hv hp hrule⟩
  | .eachKey b rules example?, h => by
      cases List.mem_singleton.1 h
      exact ⟨0, .eachKey b rules example?⟩
  | .arrayLike c hp hl, h => by
      rcases List.mem_append.1 h with h | h
      · obtain ⟨other, hother, heq⟩ := List.mem_map.1 h
        cases heq
        exact ⟨0, .array _ hp hother⟩
      · obtain ⟨q', rfl, hmem⟩ := Log.exists_of_mem_under h
        have ih := fun s hs => hl.gives (s := s) hs hmem
        obtain ⟨d, hd, -⟩ := Op.exists_deed hf
        cases hd with
        | arrayLike _ hc hs =>
            obtain ⟨k, hgives⟩ := ih _ hs
            exact ⟨k + 1, .element c hp hs hgives⟩
  | .graft hp hl, h => by
      obtain ⟨q', rfl, hmem⟩ := Log.exists_of_mem_under h
      obtain ⟨k, hgives⟩ := hl.gives hmem
      exact ⟨k, .graft hp hgives⟩
  | .graftAt b target hl, h => by
      obtain ⟨q', rfl, hmem⟩ := Log.exists_of_mem_under h
      obtain ⟨k, hgives⟩ := hl.gives hmem
      exact ⟨k, .graftAt b target hgives⟩

theorem Element.HasLog.gives {config : Config} {element : Element} {l : Log} {s : Subtree}
    {q : Path} {rule : Rule} :
    element.HasLog config l → element.realize config = .ok s → (q, rule) ∈ l →
      ∃ k, s.Gives k q rule
  | .value hv, hs, h => by
      rw [Element.realize, hv] at hs
      cases hs
      obtain ⟨rfl, hrule⟩ := Generated.of_mem_log h
      exact ⟨0, .value hrule⟩
  | .subtree config hl, hs, h => by
      have ih := hl.gives h
      cases hs
      exact ih
  | .template lenient hl, hs, h => by
      obtain ⟨earlier, op, later, k, rfl, hf, hop⟩ := hl.gives h
      exact ⟨k, .call hf hop (Element.finish_of_realize hs)⟩

end

/-- Whatever rule an element has, the calls that it has come from have given it. -/
theorem Element.exists_gives {config : Config} {element : Element} {s : Subtree} {q : Path}
    {rule : Rule} (hmade : element.realize config = .ok s)
    (hbuilt : ∀ t ∈ element.subtrees, t.Built) (h : rule ∈ s.registry.rulesAt q) :
    ∃ k q', q'.render = q.render ∧ s.Gives k q' rule := by
  obtain ⟨l, hl⟩ := element.exists_hasLog hmade fun t ht => (hbuilt t ht).exists_hasLog
  have hnone : ({} : Registry).rulesAt q = [] := rfl
  rw [hl.registry_of_realize hmade, Registry.rulesAt_pushAll, hnone, List.nil_append] at h
  have hnote : (q.render, rule) ∈ l.notes := Registry.mem_rulesFor.1 h
  obtain ⟨⟨q', other⟩, hmem, heq⟩ := List.mem_map.1 hnote
  obtain ⟨hform, rfl⟩ := Prod.mk.inj heq
  obtain ⟨k, hgives⟩ := hl.gives hmade hmem
  exact ⟨k, q', hform, hgives⟩

end Exemplar
