import Exemplar.Builder.Call
import Exemplar.Proofs.Builder.Failure
import Exemplar.Proofs.Builder.Frames
import Exemplar.Proofs.Document.Steps

/-!
# Examples and rules do not depend on each other

A call writes an example to the document and its rule to the registry. Neither of
the two may tell of the other: whoever changes examples only must get the same
rules, and whoever changes rules only must get the same document. Both are about
two runs, whose calls are the same but for what a `Variation` lets differ, also in
the templates of elements and in the runs that subtrees have come from.

The rules of two runs are at the same places because the places do not depend on
the examples either. A place is a step from an open container, and the step to the
next position of an array is told by the steps that the array has. So it is the
steps of the open containers that both runs have in common, `Builder.SameRules`,
although what lies behind these steps may be quite different. The other direction,
`Builder.SameDocument`, is simple for calls that succeed. What takes some care
there is a template that goes on behind a failure: a refusal is found when it is
finished, and an argument that cannot be made cannot be made in the other run.
-/

namespace Exemplar

open Builder

/-! ## Two runs -/

/-- What two runs may differ in. -/
structure Variation where
  generator : Generator → Generator → Prop
  eachKey : List Rule × Option String → List Rule × Option String → Prop
  cardinality : Cardinality → Cardinality → Prop
  config : Config → Config → Prop
  element : Config → Element → Prop

mutual

/-- Subtrees that are the same, or that look as two elements do that differ. -/
inductive Subtree.Varies (V : Variation) : Subtree → Subtree → Prop
  | same (s : Subtree) : Subtree.Varies V s s
  | realized {config config' : Config} {e e' : Element} {s s' : Subtree}
    (he : Element.Varies V e e') (hconfig : V.config config config')
    (hs : e.realize config = .ok s) (hs' : e'.realize config' = .ok s')
    (ha : V.element config e) (ha' : V.element config' e') : Subtree.Varies V s s'

inductive Element.Varies (V : Variation) : Element → Element → Prop
  | value {g g' : Generator} (h : V.generator g g') : Element.Varies V (.value g) (.value g')
  | subtree {s s' : Subtree} (h : Subtree.Varies V s s') :
    Element.Varies V (.subtree s) (.subtree s')
  | template (kind : Kind) (lenient : Bool) {calls calls' : List Op}
    (h : Op.AllVary V calls calls') :
    Element.Varies V (.template kind calls lenient) (.template kind calls' lenient)

inductive Op.Varies (V : Variation) : Op → Op → Prop
  | opening (call : String) (kind : Kind) (slot : Slot) :
    Op.Varies V (.opening call kind slot) (.opening call kind slot)
  | closing (call : String) (expected? : Option Kind) :
    Op.Varies V (.closing call expected?) (.closing call expected?)
  | put (call : String) (slot : Slot) {g g' : Generator} (h : V.generator g g') :
    Op.Varies V (.put call slot g) (.put call slot g')
  | putNamed (call name : String) {g g' : Generator} (h : V.generator g g') :
    Op.Varies V (.putNamed call name g) (.putNamed call name g')
  | add (slot : Slot) {g g' : Generator} (h : V.generator g g') :
    Op.Varies V (.add slot g) (.add slot g')
  | eachKey {rules rules' : List Rule} {example? example'? : Option String}
    (h : V.eachKey (rules, example?) (rules', example'?)) :
    Op.Varies V (.eachKey rules example?) (.eachKey rules' example'?)
  | arrayLike (slot : Slot) {c c' : Cardinality} {e e' : Element} (hc : V.cardinality c c')
    (he : Element.Varies V e e') : Op.Varies V (.arrayLike slot c e) (.arrayLike slot c' e')
  | graft (slot : Slot) {s s' : Subtree} (h : Subtree.Varies V s s') :
    Op.Varies V (.graft slot s) (.graft slot s')
  | graftAt (target : Path) {s s' : Subtree} (h : Subtree.Varies V s s') :
    Op.Varies V (.graftAt target s) (.graftAt target s')

inductive Op.AllVary (V : Variation) : List Op → List Op → Prop
  | nil : Op.AllVary V [] []
  | cons {op op' : Op} {ops ops' : List Op} (h : Op.Varies V op op')
    (hs : Op.AllVary V ops ops') : Op.AllVary V (op :: ops) (op' :: ops')

end

mutual

/-- The calls of all templates in a call get through. -/
def Op.Throughout (config : Config) : Op → Prop
  | .arrayLike _ _ element => element.Throughout config
  | _ => True

def Element.Throughout (config : Config) : Element → Prop
  | .template kind calls _ =>
    (∃ b, (new kind config).runStrict calls = .ok b) ∧ Op.AllThroughout config calls
  | _ => True

def Op.AllThroughout (config : Config) : List Op → Prop
  | [] => True
  | op :: ops => op.Throughout config ∧ Op.AllThroughout config ops

end

/-- The rule of what a generator makes. It needs neither an example nor the
configuration. -/
def Generator.rule? : Generator → Option Rule
  | .exact _ => none
  | .exactMoment .. => none
  | .matched _ rule => some rule
  | .string _ => some .exactType
  | .integer _ => some (.number .integer)
  | .decimal _ => some (.number .decimal)
  | .number _ => some (.number .number)
  | .boolean _ => some .exactType
  | .id _ => some .exactType
  | .hex _ => some (.regex hexPattern)
  | .uuid _ => some (.regex uuidPattern)
  | .ipAddress _ => some (.regex ipPattern)
  | .matching pattern _ => some (.regex pattern)
  | .including text => some (.includes text)
  | .temporal part pattern _ _ => some (.format part pattern)
  | .expression text pattern => some (.expression text pattern)

/-- A generator without the rule that it has been given. -/
def Generator.unruled : Generator → Generator
  | .matched value _ => .exact value
  | g => g

namespace Variation

/-- Two runs with other examples: other values and moments with the same rules,
other numbers of examples, and another configuration. -/
def examples : Variation where
  generator g g' := g.rule? = g'.rule?
  eachKey := Eq
  cardinality c c' := c.min? = c'.min? ∧ c.max? = c'.max?
  config _ _ := True
  element config e := e.Throughout config

/-- Two runs with other rules: other rules with the same values, other rules for
keys, and other bounds. -/
def rules : Variation where
  generator g g' := g.unruled = g'.unruled
  eachKey _ _ := True
  cardinality c c' := c.examples? = c'.examples?
  config := Eq
  element _ _ := True

end Variation

/-! ## The same rules from other examples -/

theorem Generator.exists_of_map_eq_ok {α : Type} {r : Except Failure α} {k : α → Generated}
    {v : Generated} (h : r.map k = .ok v) : ∃ a, k a = v := by
  cases r with
  | error f => cases h
  | ok a => exact ⟨a, Except.ok.inj h⟩

theorem Generator.rule?_make {g : Generator} {config : Config} {v : Generated}
    (h : g.make config = .ok v) : v.rule? = g.rule? := by
  cases g with
  | exact | matched | string | integer | decimal | number | boolean | id | including =>
      cases h
      rfl
  | exactMoment | hex | uuid | ipAddress | temporal =>
      obtain ⟨_, rfl⟩ := exists_of_map_eq_ok h
      rfl
  | matching pattern example? =>
      cases example? <;>
        obtain ⟨_, rfl⟩ := exists_of_map_eq_ok h
      · rfl
      · rfl
  | expression text pattern =>
      rw [make] at h
      cases hp : datePattern pattern with
      | error f => simp [hp] at h
      | ok p =>
          rw [hp] at h
          obtain ⟨_, rfl⟩ := exists_of_map_eq_ok h
          rfl

theorem Generated.notes_congr {g g' : Generator} {config config' : Config} {v v' : Generated}
    (h : g.rule? = g'.rule?) (hv : g.make config = .ok v) (hv' : g'.make config' = .ok v') :
    v.notes = v'.notes := by
  rw [notes, notes, Generator.rule?_make hv, Generator.rule?_make hv', h]

theorem Cardinality.notes_congr {c c' : Cardinality} {s s' : Subtree} (hmin : c.min? = c'.min?)
    (hmax : c.max? = c'.max?) (hs : s.registry = s'.registry) : c.notes s = c'.notes s' := by
  rw [notes, notes, rules, rules, hmin, hmax, hs]

theorem Json.slotStep?_congr {c c' : Json} {slot : Slot} {s s' : Segment}
    (h : c.steps = c'.steps) (hs : c.slotStep? slot = some s) (hs' : c'.slotStep? slot = some s') :
    s = s' := by
  cases c <;> cases slot <;> cases hs <;> cases c' <;> cases hs'
  case obj.key => rfl
  case arr.next items items' =>
    have hlen := congrArg List.length h
    rw [Segment.index.injEq]
    simpa [Json.steps] using hlen

/-- Deeds that bring the same notes to the same slot or path. -/
inductive Deed.SameRules : Deed → Deed → Prop
  | write (slot : Slot) {v v' : Json} (notes : List Note) {opens? : Option Kind}
    (h : opens? = none ∨ v = v') :
    Deed.SameRules (.write slot v notes opens?) (.write slot v' notes opens?)
  | close : Deed.SameRules .close .close
  | note (notes : List Note) : Deed.SameRules (.note notes) (.note notes)
  | writeAt (target : Path) (v v' : Json) (notes : List Note) :
    Deed.SameRules (.writeAt target v notes) (.writeAt target v' notes)

namespace Builder

/-- Builders that have the same rules and would put the next one at the same place. -/
structure SameRules (b b' : Builder) : Prop where
  registry : b.registry = b'.registry
  rootKind : b.rootKind = b'.rootKind
  frames : b.frames = b'.frames
  stepsAt : ∀ f ∈ b.openFrames, b.document.stepsAt? f.path = b'.document.stepsAt? f.path

variable {b b' c c' : Builder}

theorem current_congr (hk : b.rootKind = b'.rootKind) (hf : b.frames = b'.frames) :
    b.current = b'.current := by
  rw [current, current, rootFrame, rootFrame, hk, hf]

namespace SameRules

theorem current (h : SameRules b b') : b.current = b'.current := current_congr h.rootKind h.frames

theorem stepsAt_putAt (h : SameRules b b') {p : Path} {s : Segment} {v v' j j' : Json}
    (hput : b.document.putAt? p s v = some j) (hput' : b'.document.putAt? p s v' = some j')
    (hfree : ∀ f ∈ b.openFrames, ¬ p.extend s <+: f.path) :
    ∀ f ∈ b.openFrames, j.stepsAt? f.path = j'.stepsAt? f.path := by
  intro f hf
  rw [Json.stepsAt?_putAt? hput (hfree f hf), Json.stepsAt?_putAt? hput' (hfree f hf)]
  split
  · next hp => rw [← hp, h.stepsAt f hf]
  · exact h.stepsAt f hf

theorem slotStep (h : SameRules b b') {slot : Slot} {d d' : Json} {s s' : Segment}
    (hd : b.document.at? b.current.path = some d) (hd' : b'.document.at? b'.current.path = some d')
    (hs : d.slotStep? slot = some s) (hs' : d'.slotStep? slot = some s') : s = s' := by
  have hsteps := h.stepsAt _ b.current_mem_openFrames
  rw [← h.current] at hd'
  rw [Json.stepsAt?, Json.stepsAt?, hd, hd'] at hsteps
  exact Json.slotStep?_congr (Option.some.inj hsteps) hs hs'

theorem perform (h : SameRules b b') (hb : b.Framed) {d d' : Deed}
    (hd : d.SameRules d') (hp : b.perform? d = some c) (hp' : b'.perform? d' = some c') :
    SameRules c c' := by
  cases hd with
  | @write slot v v' notes opens? hopens =>
      obtain ⟨document, p, hins, rfl⟩ := perform?_write_eq_some_iff.1 hp
      obtain ⟨document', p', hins', rfl⟩ := perform?_write_eq_some_iff.1 hp'
      obtain ⟨d, s, hat, hs, rfl, hput⟩ := Json.insertAt?_eq_some_iff.1 hins
      obtain ⟨d', s', hat', hs', rfl, hput'⟩ := Json.insertAt?_eq_some_iff.1 hins'
      obtain rfl : s = s' := h.slotStep hat hat' hs hs'
      rw [← h.current] at hput' ⊢
      have hsteps := h.stepsAt_putAt hput hput' fun f hf => hb.not_extend_prefix hf s
      refine ⟨by rw [h.registry], h.rootKind, by rw [h.frames], ?_⟩
      intro f hf
      cases opens? with
      | none => exact hsteps f hf
      | some k =>
          obtain rfl : v = v' := hopens.resolve_left nofun
          rcases List.mem_cons.1 hf with rfl | hf
          · simp [Json.stepsAt?, Json.at?_putAt?_self hput, Json.at?_putAt?_self hput']
          · exact hsteps f hf
  | close =>
      obtain ⟨f, fs, hf, rfl⟩ := perform?_close_eq_some_iff.1 hp
      obtain ⟨f', fs', hf', rfl⟩ := perform?_close_eq_some_iff.1 hp'
      obtain ⟨rfl, rfl⟩ := List.cons.inj (hf.symm.trans (h.frames.trans hf'))
      refine ⟨h.registry, h.rootKind, rfl, fun g hg => h.stepsAt g ?_⟩
      rw [openFrames, hf]
      exact List.mem_cons_of_mem f hg
  | note notes =>
      cases hp
      cases hp'
      exact ⟨by rw [h.registry, h.current], h.rootKind, h.frames, h.stepsAt⟩
  | writeAt target v v' notes =>
      obtain ⟨document, hwith, rfl⟩ := perform?_writeAt_eq_some_iff.1 hp
      obtain ⟨document', hwith', rfl⟩ := perform?_writeAt_eq_some_iff.1 hp'
      obtain ⟨p, s, rfl, hfree, hput⟩ := documentWith_eq_ok_iff.1 hwith
      obtain ⟨q, t, hpq, -, hput'⟩ := documentWith_eq_ok_iff.1 hwith'
      obtain ⟨rfl, rfl⟩ : p = q ∧ s = t := by simpa [Path.extend] using hpq
      exact ⟨by rw [h.registry], h.rootKind, h.frames,
        h.stepsAt_putAt hput hput' (Framed.not_prefix_of_frames hfree)⟩

theorem new (kind : Kind) (config config' : Config) :
    SameRules (Builder.new kind config) (Builder.new kind config') :=
  ⟨rfl, rfl, rfl, fun _ _ => rfl⟩

end SameRules

/-- What a template whose calls get through looks like has the registry that the
calls leave behind. -/
theorem registry_of_runStrict {kind : Kind} {config : Config} {calls : List Op} {lenient : Bool}
    {s : Subtree} (hb : (Builder.new kind config).runStrict calls = .ok b)
    (hs : (Element.template kind calls lenient).realize config = .ok s) :
    s.registry = b.registry := by
  obtain rfl := Op.eq_after_of_runTemplate hb
  rw [(finish_eq_ok_iff.1 (Element.finish_of_realize hs)).2.2]

end Builder

mutual

theorem Subtree.Varies.registry_eq {s s' : Subtree} :
    s.Varies .examples s' → s.registry = s'.registry
  | .same s => rfl
  | .realized he _ hs hs' ha ha' => he.registry_eq ha ha' hs hs'

theorem Element.Varies.registry_eq {e e' : Element} {config config' : Config} {s s' : Subtree} :
    e.Varies .examples e' → e.Throughout config → e'.Throughout config' →
      e.realize config = .ok s → e'.realize config' = .ok s' → s.registry = s'.registry
  | @Element.Varies.value _ g g' h, _, _, hs, hs' => by
      obtain ⟨v, hv, rfl⟩ := Element.realize_value_eq_ok_iff.1 hs
      obtain ⟨v', hv', rfl⟩ := Element.realize_value_eq_ok_iff.1 hs'
      have hr : v.rule? = v'.rule? := by
        rw [Generator.rule?_make hv, Generator.rule?_make hv']
        exact h
      rw [Subtree.ofGenerated, Subtree.ofGenerated, hr]
  | .subtree h, _, _, hs, hs' => by
      have ih := h.registry_eq
      cases hs
      cases hs'
      exact ih
  | .template kind lenient h, ht, ht', hs, hs' => by
      obtain ⟨⟨b, hb⟩, hcalls⟩ := ht
      obtain ⟨⟨b', hb'⟩, hcalls'⟩ := ht'
      have ih := h.sameRules (.new kind config) (.new kind config') hcalls hcalls'
        (.new kind config config') hb hb'
      rw [registry_of_runStrict hb hs, registry_of_runStrict hb' hs', ih.registry]

theorem Op.Varies.sameRules {b b' : Builder} {op op' : Op} {d d' : Deed} :
    op.Varies .examples op' → op.Throughout b.config → op'.Throughout b'.config →
      b.SameRules b' → op.Does b d → op'.Does b' d' → d.SameRules d'
  | .opening call kind slot, _, _, _, hd, hd' => by
      cases hd
      cases hd'
      exact .write slot [] (.inr rfl)
  | .closing call expected?, _, _, _, hd, hd' => by
      cases hd
      cases hd'
      exact .close
  | .put call slot h, _, _, _, hd, hd' => by
      cases hd with
      | put _ _ hv =>
          cases hd' with
          | put _ _ hv' =>
              rw [Generated.notes_congr h hv hv']
              exact .write slot _ (.inl rfl)
  | .putNamed call name h, _, _, hb, hd, hd' => by
      cases hd with
      | putNamed _ _ hv =>
          cases hd' with
          | putNamed _ _ hv' =>
              rw [Generated.notes_congr h hv hv', defaultSlot, defaultSlot, hb.current]
              exact .write _ _ (.inl rfl)
  | .add slot h, _, _, _, hd, hd' => by
      cases hd with
      | add _ hv =>
          cases hd' with
          | add _ hv' =>
              rw [Generated.notes_congr h hv hv']
              exact .write slot _ (.inl rfl)
  | .eachKey h, _, _, _, hd, hd' => by
      obtain ⟨rfl, rfl⟩ := Prod.mk.inj h
      cases hd
      cases hd'
      exact .note _
  | @Op.Varies.arrayLike _ slot c c' e e' hc he, ht, ht', _, hd, hd' => by
      -- The number of copies may differ, but notes speak of the wildcard only.
      have ih : ∀ s s', e.realize b.config = .ok s → e'.realize b'.config = .ok s' →
          s.registry = s'.registry := fun _ _ => he.registry_eq ht ht'
      cases hd with
      | arrayLike _ _ hs =>
          cases hd' with
          | arrayLike _ _ hs' =>
              rw [Cardinality.notes_congr hc.1 hc.2 (ih _ _ hs hs')]
              exact .write slot _ (.inl rfl)
  | .graft slot h, _, _, _, hd, hd' => by
      have ih := h.registry_eq
      cases hd
      cases hd'
      rw [ih]
      exact .write slot _ (.inl rfl)
  | .graftAt target h, _, _, _, hd, hd' => by
      have ih := h.registry_eq
      cases hd
      cases hd'
      rw [ih]
      exact .writeAt target _ _ _

theorem Op.AllVary.sameRules {ops ops' : List Op} {b b' c c' : Builder} :
    Op.AllVary .examples ops ops' → b.Framed → b'.Framed →
      Op.AllThroughout b.config ops → Op.AllThroughout b'.config ops' → b.SameRules b' →
      b.runStrict ops = .ok c → b'.runStrict ops' = .ok c' → c.SameRules c'
  | .nil, _, _, _, _, hb, hc, hc' => by
      cases hc
      cases hc'
      exact hb
  | @Op.AllVary.cons _ op op' _ _ h hs, hframed, hframed', ht, ht', hb, hc, hc' => by
      obtain ⟨b₁, hop, hrest⟩ := runStrict_cons_eq_ok_iff.1 hc
      obtain ⟨b₁', hop', hrest'⟩ := runStrict_cons_eq_ok_iff.1 hc'
      obtain ⟨-, d, hd, hp⟩ := Op.run_eq_ok_iff.1 hop
      obtain ⟨-, d', hd', hp'⟩ := Op.run_eq_ok_iff.1 hop'
      have hstep := hb.perform hframed (h.sameRules ht.1 ht'.1 hb hd hd') hp hp'
      have hconfig := (config_of_perform hp).1
      have hconfig' := (config_of_perform hp').1
      have hf : b₁.Framed := by simpa [hop] using hframed.run op
      have hf' : b₁'.Framed := by simpa [hop'] using hframed'.run op'
      exact hs.sameRules hf hf' (hconfig ▸ ht.2) (hconfig' ▸ ht'.2) hstep hrest hrest'

end

/-! ## The same document from other rules -/

theorem Generator.map_value_make (g : Generator) (config : Config) :
    (g.make config).map Generated.value = (g.unruled.make config).map Generated.value := by
  cases g <;> rfl

theorem Generator.value_congr {g g' : Generator} {config : Config} {v v' : Generated}
    (h : g.unruled = g'.unruled) (hv : g.make config = .ok v) (hv' : g'.make config = .ok v') :
    v.value = v'.value := by
  have hmap := g.map_value_make config
  rw [h, ← g'.map_value_make config, hv, hv'] at hmap
  exact Except.ok.inj hmap

theorem Generator.failure?_unruled (g : Generator) (config : Config) :
    (Element.value g).failure? config = (Element.value g.unruled).failure? config := by
  cases g <;> rfl

inductive Deed.SameValue : Deed → Deed → Prop
  | write (slot : Slot) (v : Json) (notes notes' : List Note) (opens? : Option Kind) :
    Deed.SameValue (.write slot v notes opens?) (.write slot v notes' opens?)
  | close : Deed.SameValue .close .close
  | note (notes notes' : List Note) : Deed.SameValue (.note notes) (.note notes')
  | writeAt (target : Path) (v : Json) (notes notes' : List Note) :
    Deed.SameValue (.writeAt target v notes) (.writeAt target v notes')

namespace Builder

structure SameDocument (b b' : Builder) : Prop where
  document : b.document = b'.document
  rootKind : b.rootKind = b'.rootKind
  frames : b.frames = b'.frames
  config : b.config = b'.config

variable {b b' c c' : Builder}

namespace SameDocument

theorem refl (b : Builder) : SameDocument b b := ⟨rfl, rfl, rfl, rfl⟩

theorem current (h : SameDocument b b') : b.current = b'.current :=
  current_congr h.rootKind h.frames

theorem perform (h : SameDocument b b') {d d' : Deed} (hd : d.SameValue d')
    (hp : b.perform? d = some c) (hp' : b'.perform? d' = some c') : SameDocument c c' := by
  cases hd with
  | write slot v notes notes' opens? =>
      obtain ⟨document, p, hins, rfl⟩ := perform?_write_eq_some_iff.1 hp
      obtain ⟨document', p', hins', rfl⟩ := perform?_write_eq_some_iff.1 hp'
      rw [h.document, h.current, hins'] at hins
      obtain ⟨rfl, rfl⟩ := Prod.mk.inj (Option.some.inj hins)
      exact ⟨rfl, h.rootKind, by rw [h.frames], h.config⟩
  | close =>
      obtain ⟨f, fs, hf, rfl⟩ := perform?_close_eq_some_iff.1 hp
      obtain ⟨f', fs', hf', rfl⟩ := perform?_close_eq_some_iff.1 hp'
      obtain ⟨rfl, rfl⟩ := List.cons.inj (hf.symm.trans (h.frames.trans hf'))
      exact ⟨h.document, h.rootKind, rfl, h.config⟩
  | note notes notes' =>
      cases hp
      cases hp'
      exact ⟨h.document, h.rootKind, h.frames, h.config⟩
  | writeAt target v notes notes' =>
      obtain ⟨document, hwith, rfl⟩ := perform?_writeAt_eq_some_iff.1 hp
      obtain ⟨document', hwith', rfl⟩ := perform?_writeAt_eq_some_iff.1 hp'
      rw [documentWith, h.document, h.frames] at hwith
      obtain rfl := Except.ok.inj (hwith.symm.trans hwith')
      exact ⟨rfl, h.rootKind, h.frames, h.config⟩

end SameDocument

/-- Behind a call of a template that can be finished in the end, the template goes
on with what the call has done, or as if there had not been a call of which an
argument could not be made. -/
theorem runTemplate_cons_cases {lenient : Bool} {op : Op} {ops : List Op}
    (h : Op.runTemplate lenient b (op :: ops) = .ok c) (hc : c.poisoned = false) :
    (∃ b₁, op.run b = ⟨b₁, none⟩ ∧ Op.runTemplate lenient b₁ ops = .ok c) ∨
      (op.argumentFailure? b.config ≠ none ∧ Op.runTemplate lenient b ops = .ok c) := by
  rw [Op.runTemplate] at h
  cases hf : (op.run b).failure? with
  | none => exact .inl ⟨(op.run b).builder, by rw [← hf], by simpa [hf] using h⟩
  | some f =>
      have hgo : Op.runTemplate lenient (op.run b).builder ops = .ok c := by
        cases f <;> cases lenient <;> simp [hf] at h
        exact h
      cases hargs : op.argumentFailure? b.config with
      | some f' =>
          rw [Op.run_of_argumentFailure hargs] at hgo
          exact .inr ⟨Option.some_ne_none f', hgo⟩
      | none =>
          cases f with
          | outOfCalendar => simp [hf] at h
          -- A refusal leaves a mark, and the mark stays.
          | refused e =>
              have hp : (op.run b).builder.poisoned = true := by rw [Op.run_refused hargs hf]
              rw [Op.eq_after_of_runTemplate hgo, after_of_poisoned hp, hp] at hc
              cases hc

end Builder

theorem Op.Varies.argumentFailure?_eq {op op' : Op} (h : op.Varies .rules op') (config : Config) :
    op.argumentFailure? config = op'.argumentFailure? config := by
  have hvalue : ∀ {g g' : Generator}, g.unruled = g'.unruled →
      (Element.value g).failure? config = (Element.value g').failure? config := by
    intro g g' hg
    rw [g.failure?_unruled, g'.failure?_unruled, hg]
  cases h with
  | add slot hg => exact hvalue hg
  | arrayLike slot hc he =>
      cases he with
      | value hg => exact hvalue hg
      | subtree | template => rfl
  | opening | closing | put | putNamed | eachKey | graft | graftAt => rfl

mutual

theorem Subtree.Varies.document_eq {s s' : Subtree} :
    s.Varies .rules s' → s.document = s'.document
  | .same s => rfl
  | .realized he hconfig hs hs' _ _ => he.document_eq hs (hconfig ▸ hs')

theorem Element.Varies.document_eq {e e' : Element} {config : Config} {s s' : Subtree} :
    e.Varies .rules e' → e.realize config = .ok s → e'.realize config = .ok s' →
      s.document = s'.document
  | @Element.Varies.value _ g g' h, hs, hs' => by
      obtain ⟨v, hv, rfl⟩ := Element.realize_value_eq_ok_iff.1 hs
      obtain ⟨v', hv', rfl⟩ := Element.realize_value_eq_ok_iff.1 hs'
      exact Generator.value_congr h hv hv'
  | .subtree h, hs, hs' => by
      have ih := h.document_eq
      cases hs
      cases hs'
      exact ih
  | .template kind lenient h, hs, hs' => by
      obtain ⟨c, hc, hfinish⟩ := Element.realize_template_eq_ok_iff.1 hs
      obtain ⟨c', hc', hfinish'⟩ := Element.realize_template_eq_ok_iff.1 hs'
      obtain ⟨hp, -, rfl⟩ := finish_eq_ok_iff.1 hfinish
      obtain ⟨hp', -, rfl⟩ := finish_eq_ok_iff.1 hfinish'
      exact (h.sameDocument (.refl _) hc hc' hp hp').document

theorem Op.Varies.sameValue {b b' : Builder} {op op' : Op} {d d' : Deed} :
    op.Varies .rules op' → b.SameDocument b' → op.Does b d → op'.Does b' d' → d.SameValue d'
  | .opening call kind slot, _, hd, hd' => by
      cases hd
      cases hd'
      exact .write ..
  | .closing call expected?, _, hd, hd' => by
      cases hd
      cases hd'
      exact .close
  | .put call slot h, hb, hd, hd' => by
      cases hd with
      | put _ _ hv =>
          cases hd' with
          | put _ _ hv' =>
              rw [Generator.value_congr h hv (hb.config ▸ hv')]
              exact .write ..
  | .putNamed call name h, hb, hd, hd' => by
      cases hd with
      | putNamed _ _ hv =>
          cases hd' with
          | putNamed _ _ hv' =>
              rw [Generator.value_congr h hv (hb.config ▸ hv'), defaultSlot, defaultSlot, hb.current]
              exact .write ..
  | .add slot h, hb, hd, hd' => by
      cases hd with
      | add _ hv =>
          cases hd' with
          | add _ hv' =>
              rw [Generator.value_congr h hv (hb.config ▸ hv')]
              exact .write ..
  | .eachKey h, _, hd, hd' => by
      cases hd
      cases hd'
      exact .note _ _
  | @Op.Varies.arrayLike _ slot c c' e e' hc he, hb, hd, hd' => by
      have ih : ∀ s s', e.realize b.config = .ok s → e'.realize b.config = .ok s' →
          s.document = s'.document := fun _ _ => he.document_eq
      have hcount : c.examples? = c'.examples? := hc
      cases hd with
      | arrayLike _ _ hs =>
          cases hd' with
          | arrayLike _ _ hs' =>
              rw [ih _ _ hs (hb.config ▸ hs'), hcount, hb.config]
              exact .write ..
  | .graft slot h, _, hd, hd' => by
      have ih := h.document_eq
      cases hd
      cases hd'
      rw [ih]
      exact .write ..
  | .graftAt target h, _, hd, hd' => by
      have ih := h.document_eq
      cases hd
      cases hd'
      rw [ih]
      exact .writeAt ..

theorem Op.AllVary.sameDocument {lenient : Bool} {ops ops' : List Op} {b b' c c' : Builder} :
    Op.AllVary .rules ops ops' → b.SameDocument b' → Op.runTemplate lenient b ops = .ok c →
      Op.runTemplate lenient b' ops' = .ok c' → c.poisoned = false → c'.poisoned = false →
      c.SameDocument c'
  | .nil, hb, hc, hc', _, _ => by
      cases hc
      cases hc'
      exact hb
  | .cons h hs, hb, hc, hc', hp, hp' => by
      have hargs := h.argumentFailure?_eq b.config
      rcases runTemplate_cons_cases hc hp with ⟨b₁, hop, hrest⟩ | ⟨hfail, hrest⟩ <;>
        rcases runTemplate_cons_cases hc' hp' with ⟨b₁', hop', hrest'⟩ | ⟨hfail', hrest'⟩
      · obtain ⟨-, d, hd, hdo⟩ := Op.run_eq_ok_iff.1 hop
        obtain ⟨-, d', hd', hdo'⟩ := Op.run_eq_ok_iff.1 hop'
        have hstep := hb.perform (h.sameValue hb hd hd') hdo hdo'
        exact hs.sameDocument hstep hrest hrest' hp hp'
      · exact absurd (hargs ▸ Op.argumentFailure?_of_run hop) (hb.config ▸ hfail')
      · exact absurd (hb.config ▸ Op.argumentFailure?_of_run hop') (hargs ▸ hfail)
      · exact hs.sameDocument hb hrest hrest' hp hp'

end

/-- Examples do not leak into rules, nor rules into examples. If two runs differ in
examples only, down to those of templates and subtrees, and all their calls get
through, they have the same rules, by the same forms and in the same order. If two
runs differ in rules only and get through, they have the same document, with the
same order of keys. -/
theorem examples_and_rules_independent (kind : Kind) (ops ops' : List Op) :
    (∀ config config' b b', Op.AllVary .examples ops ops' →
      Op.AllThroughout config ops → Op.AllThroughout config' ops' →
      (new kind config).runStrict ops = .ok b → (new kind config').runStrict ops' = .ok b' →
      b.registry = b'.registry) ∧
    (∀ config b b', Op.AllVary .rules ops ops' →
      (new kind config).runStrict ops = .ok b → (new kind config).runStrict ops' = .ok b' →
      b.document = b'.document) := by
  constructor
  · intro config config' b b' h ht ht' hb hb'
    have hsame := h.sameRules (.new kind config) (.new kind config') ht ht' (.new kind _ _) hb hb'
    exact hsame.registry
  · intro config b b' h hb hb'
    have hp : b.poisoned = false := poisoned_of_runStrict hb
    have hp' : b'.poisoned = false := poisoned_of_runStrict hb'
    exact (h.sameDocument (.refl _) hb hb' hp hp').document

def menu (text : String) (count : Nat) : List Op :=
  [.value (.key "title") (.str text),
    .arrayLike (.key "dishes") { min? := some 1, examples? := some count }
      (.template .object [.stringType (.key "name") (some text)] true),
    .pushArray (.key "notes"), .graft .next (.ofGenerated (.matched (.str text) .exactType))]

theorem menu_vary (text text' : String) (count count' : Nat) :
    Op.AllVary .examples (menu text count) (menu text' count') := by
  have helement : Element.Varies .examples (.value (.matched (.str text) .exactType))
      (.value (.matched (.str text') .exactType)) := .value rfl
  have hmade : ∀ text, (Element.value (.matched (.str text) .exactType)).realize {} =
      .ok (.ofGenerated (.matched (.str text) .exactType)) := fun _ => rfl
  have hsubtree := Subtree.Varies.realized helement trivial (hmade text) (hmade text')
    trivial trivial
  exact .cons (.put _ _ rfl)
    (.cons (.arrayLike _ ⟨rfl, rfl⟩ (.template _ _ (.cons (.put _ _ rfl) .nil)))
      (.cons (.opening ..) (.cons (.graft _ hsubtree) .nil)))

theorem menu_throughout (config : Config) (text : String) (count : Nat) :
    Op.AllThroughout config (menu text count) :=
  ⟨trivial, ⟨⟨_, rfl⟩, trivial, trivial⟩, trivial, trivial, trivial⟩

def priced (rule? : Option Rule) (min : Nat) : List Op :=
  [.addField "price" (.bool true) rule?, .eachKey rule?.toList none,
    .minArrayLike (.key "tags") min (.value (.string none))]

theorem priced_vary (rule : Rule) (min min' : Nat) :
    Op.AllVary .rules (priced none min) (priced (some rule) min') :=
  .cons (.put _ _ rfl) (.cons (.eachKey trivial) (.cons (.arrayLike _ rfl (.value rfl)) .nil))

theorem examples_and_rules_independent_of_menu :
    ∃ b b' c c' : Builder,
      (new .object {}).runStrict (menu "soup" 1) = .ok b ∧
      (new .object { samples := { examples := 2 } }).runStrict (menu "cake" 3) = .ok b' ∧
      b.registry = b'.registry ∧
      b.registry.paths = ["$.dishes", "$.dishes[*].name", "$.notes[0]"] ∧
      (new .object {}).runStrict (priced none 0) = .ok c ∧
      (new .object {}).runStrict (priced (some .exactType) 5) = .ok c' ∧
      c.document = c'.document := by
  refine ⟨_, _, _, _, rfl, rfl, ?_, rfl, rfl, rfl, ?_⟩
  · exact (examples_and_rules_independent .object _ _).1 _ _ _ _ (menu_vary "soup" "cake" 1 3)
      (menu_throughout _ _ _) (menu_throughout _ _ _) rfl rfl
  · exact (examples_and_rules_independent .object _ _).2 _ _ _ (priced_vary .exactType 0 5) rfl rfl

end Exemplar
