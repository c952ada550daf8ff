import Exemplar.Builder.Call
import Exemplar.Proofs.Builder.Run

/-!
# The registry groups the log of a run

The log of a run is the list of the rules that its calls have given, each with the
path of the node that it is for. It is said with paths alone, call by call: what
is put in with a subtree or as the element of an array is the log of that subtree,
with a path in front. The registry does not have this list. It has rules by
written forms, and rules that come from a subtree have already been grouped by
the forms that they had there.

That the registry is the log grouped by written forms is `Registry.Groups`. It
is shown by `registry_after`: after calls with the log `l`, the registry is the
one that it was before with the notes of `l` put in one by one. Where a subtree is
put in this is the lemma that grouping before and after moving come to the same.
-/

namespace Exemplar

open Builder

/-- Rules, each with the path of the node that it is for, in the order in which
they were given. -/
abbrev Log := List (Path × Rule)

namespace Log

def under (p : Path) (l : Log) : Log := l.map fun (q, rule) => (p ++ q, rule)

def notes (l : Log) : List Note := l.map fun (p, rule) => (p.render, rule)

def rulesFor (form : String) (l : Log) : List Rule :=
  (l.filter fun (p, _) => p.render = form).map Prod.snd

theorem notes_append (l l' : Log) : (l ++ l').notes = l.notes ++ l'.notes := List.map_append

theorem notes_under (p : Path) (l : Log) : (l.under p).notes = l.notes.map (Note.under p) := by
  simp [notes, under, Note.under_render]

theorem rooted_notes (l : Log) : ∀ n ∈ l.notes, Registry.Rooted n.1 := by
  intro n hn
  obtain ⟨⟨p, rule⟩, -, rfl⟩ := List.mem_map.1 hn
  exact Registry.rooted_render p

theorem rulesFor_notes (form : String) (l : Log) :
    Registry.rulesFor form l.notes = l.rulesFor form := by
  simp [Registry.rulesFor, rulesFor, notes, List.filter_map, Function.comp_def]

end Log

/-- A registry has the rules of a log, by the written forms of their paths: the
forms in the order in which they come up first, the rules of each in order. -/
structure Registry.Groups (r : Registry) (l : Log) : Prop where
  paths : r.paths = (l.map fun (p, _) => p.render).eraseDups
  rules : ∀ form, r.get? form = if l.rulesFor form = [] then none else some (l.rulesFor form)

namespace Registry

theorem groups_pushAll (l : Log) : (({} : Registry).pushAll l.notes).Groups l where
  paths := by
    rw [paths_pushAll, Log.notes, List.map_map]
    rfl
  rules := by
    intro form
    rw [get?_pushAll, Log.rulesFor_notes]
    cases l.rulesFor form <;> rfl

theorem pushAll_under_notes (r : Registry) (p : Path) (l : Log) :
    r.pushAll ((({} : Registry).pushAll l.notes).notes.map (Note.under p)) =
      r.pushAll (l.under p).notes := by
  rw [pushAll_notes_pushAll r .empty p l.rooted_notes, Log.notes_under]
  rfl

end Registry

/-! ## Logs -/

/-- The path that a slot of the current container leads to. -/
def Builder.slotPath? (b : Builder) (slot : Slot) : Option Path :=
  (b.document.at? b.current.path).bind fun c => (c.slotStep? slot).map b.current.path.extend

def Generated.log (p : Path) (g : Generated) : Log := g.rule?.toList.map (p, ·)

mutual

/-- A log with which a subtree has come about. -/
inductive Subtree.HasLog : Subtree → Log → Prop
  | value (g : Generated) : Subtree.HasLog (.ofGenerated g) (g.log .root)
  | finished {kind : Kind} {config : Config} {ops : List Op} {s : Subtree} {l : Log}
    (hl : Builder.HasLog (new kind config) ops l)
    (hs : ((new kind config).after ops).finish = .ok s) : Subtree.HasLog s l

/-- A log of calls that are made one after the other. -/
inductive Builder.HasLog : Builder → List Op → Log → Prop
  | nil (b : Builder) : Builder.HasLog b [] []
  /-- A call that fails has no log. -/
  | failed {b : Builder} {op : Op} {ops : List Op} {l : Log} {f : Failure}
    (hf : (op.run b).failure? = some f) (h : Builder.HasLog (op.run b).builder ops l) :
    Builder.HasLog b (op :: ops) l
  | made {b : Builder} {op : Op} {ops : List Op} {l l' : Log}
    (hf : (op.run b).failure? = none) (hop : Op.HasLog b op l)
    (h : Builder.HasLog (op.run b).builder ops l') : Builder.HasLog b (op :: ops) (l ++ l')

inductive Op.HasLog : Builder → Op → Log → Prop
  | opening (b : Builder) (call : String) (kind : Kind) (slot : Slot) :
    Op.HasLog b (.opening call kind slot) []
  | closing (b : Builder) (call : String) (expected? : Option Kind) :
    Op.HasLog b (.closing call expected?) []
  | put {b : Builder} (call : String) {slot : Slot} {g : Generator} {v : Generated} {p : Path}
    (hv : g.make b.config = .ok v) (hp : b.slotPath? slot = some p) :
    Op.HasLog b (.put call slot g) (v.log p)
  | putNamed {b : Builder} (call : String) {name : String} {g : Generator} {v : Generated}
    {p : Path} (hv : g.make b.config = .ok v) (hp : b.slotPath? (b.defaultSlot name) = some p) :
    Op.HasLog b (.putNamed call name g) (v.log p)
  | add {b : Builder} {slot : Slot} {g : Generator} {v : Generated} {p : Path}
    (hv : g.make b.config = .ok v) (hp : b.slotPath? slot = some p) :
    Op.HasLog b (.add slot g) (v.log p)
  | eachKey (b : Builder) (rules : List Rule) (example? : Option String) :
    Op.HasLog b (.eachKey rules example?) [(b.current.path, .eachKey rules example?)]
  | arrayLike {b : Builder} {slot : Slot} (c : Cardinality) {element : Element} {p : Path} {l : Log}
    (hp : b.slotPath? slot = some p) (hl : Element.HasLog b.config element l) :
    Op.HasLog b (.arrayLike slot c element) (c.rules.map (p, ·) ++ l.under (p.extend .wildcard))
  | graft {b : Builder} {slot : Slot} {s : Subtree} {p : Path} {l : Log}
    (hp : b.slotPath? slot = some p) (hl : Subtree.HasLog s l) :
    Op.HasLog b (.graft slot s) (l.under p)
  | graftAt (b : Builder) (target : Path) {s : Subtree} {l : Log} (hl : Subtree.HasLog s l) :
    Op.HasLog b (.graftAt target s) (l.under target)

inductive Element.HasLog : Config → Element → Log → Prop
  | value {config : Config} {g : Generator} {v : Generated} (hv : g.make config = .ok v) :
    Element.HasLog config (.value g) (v.log .root)
  | subtree (config : Config) {s : Subtree} {l : Log} (hl : Subtree.HasLog s l) :
    Element.HasLog config (.subtree s) l
  | template {config : Config} {kind : Kind} {calls : List Op} (lenient : Bool) {l : Log}
    (hl : Builder.HasLog (new kind config) calls l) :
    Element.HasLog config (.template kind calls lenient) l

end

namespace Builder

variable {b b' : Builder}

theorem slotPath?_of_insertAt? {slot : Slot} {v document : Json} {p : Path}
    (h : b.document.insertAt? b.current.path slot v = some (document, p)) :
    b.slotPath? slot = some p := by
  obtain ⟨c, s, hc, hs, rfl, -⟩ := Json.insertAt?_eq_some_iff.1 h
  simp [slotPath?, hc, hs]

theorem exists_slotPath {slot : Slot} {v : Json} {notes : List Note} {opens? : Option Kind}
    (h : b.perform? (.write slot v notes opens?) = some b') :
    ∃ p, b.slotPath? slot = some p ∧
      b'.registry = b.registry.pushAll (notes.map (Note.under p)) := by
  obtain ⟨document, p, hins, rfl⟩ := perform?_write_eq_some_iff.1 h
  exact ⟨p, slotPath?_of_insertAt? hins, rfl⟩

theorem registry_of_write {slot : Slot} {v : Json} {notes : List Note} {opens? : Option Kind}
    {p : Path} (h : b.perform? (.write slot v notes opens?) = some b')
    (hp : b.slotPath? slot = some p) :
    b'.registry = b.registry.pushAll (notes.map (Note.under p)) := by
  obtain ⟨q, hq, hr⟩ := exists_slotPath h
  obtain rfl : p = q := Option.some.inj (hp.symm.trans hq)
  exact hr

theorem exists_registry_after (b : Builder) (ops : List Op) :
    ∃ notes, (b.after ops).registry = b.registry.pushAll notes := by
  refine after_induction (P := fun b' => ∃ notes, b'.registry = b.registry.pushAll notes)
    ⟨[], rfl⟩ ?_ ops
  rintro b' op ⟨notes, hb'⟩
  rcases Op.run_builder_cases b' op with ⟨d, -, hd⟩ | hb | hb
  · obtain ⟨p, more, hr⟩ := exists_registry_of_perform hd
    exact ⟨notes ++ more.map (Note.under p), by rw [hr, hb', Registry.pushAll_append]⟩
  · exact ⟨notes, by rw [hb, hb']⟩
  · exact ⟨notes, by rw [hb, hb']⟩

end Builder

theorem Generated.notes_log (p : Path) (g : Generated) :
    (g.log p).notes = g.notes.map (Note.under p) := by
  cases hr : g.rule? <;> simp [Generated.log, Generated.notes, Log.notes, Rule.under_note, hr]

theorem Builder.registry_of_made {b b' : Builder} {slot : Slot} {v w : Generated} {p : Path}
    (h : b.perform? (.write slot v.value v.notes none) = some b') (hp : b.slotPath? slot = some p)
    (hw : (.ok v : Except Failure Generated) = .ok w) :
    b'.registry = b.registry.pushAll (w.log p).notes := by
  obtain rfl := Except.ok.inj hw
  rw [registry_of_write h hp, Generated.notes_log]

theorem Cardinality.pushAll_notes (c : Cardinality) {s : Subtree} {l : Log}
    (hs : s.registry = ({} : Registry).pushAll l.notes) (r : Registry) (p : Path) :
    r.pushAll ((c.notes s).map (Note.under p)) =
      r.pushAll (Log.notes (c.rules.map (p, ·) ++ l.under (p.extend .wildcard))) := by
  have hrules : c.rules.map (p.render, ·) = Log.notes (c.rules.map (p, ·)) := by
    simp [Log.notes]
  rw [c.map_under_notes, hrules, Log.notes_append, Registry.pushAll_append,
    Registry.pushAll_append, hs, Registry.pushAll_under_notes]

theorem Subtree.registry_ofGenerated (g : Generated) :
    (Subtree.ofGenerated g).registry = ({} : Registry).pushAll (g.log .root).notes := by
  cases hr : g.rule? <;> simp [Subtree.ofGenerated, Generated.log, Log.notes, Registry.add, hr]

mutual

theorem Subtree.HasLog.registry_eq {s : Subtree} {l : Log} :
    s.HasLog l → s.registry = ({} : Registry).pushAll l.notes
  | .value g => Subtree.registry_ofGenerated g
  | .finished hl hs => by
      rw [(finish_eq_ok_iff.1 hs).2.2]
      exact hl.registry_after

theorem Builder.HasLog.registry_after {b : Builder} {ops : List Op} {l : Log} :
    b.HasLog ops l → (b.after ops).registry = b.registry.pushAll l.notes
  | .nil b => rfl
  | .failed hf h => by
      rw [after_cons, h.registry_after]
      rcases Op.run_builder_of_failure hf with hb | hb <;> rw [hb]
  | .made hf hop h => by
      rw [after_cons, h.registry_after, hop.registry_run hf, Log.notes_append,
        Registry.pushAll_append]

theorem Op.HasLog.registry_run {b : Builder} {op : Op} {l : Log}
    (hf : (op.run b).failure? = none) :
    Op.HasLog b op l → (op.run b).builder.registry = b.registry.pushAll l.notes
  | .opening b call kind slot => by
      obtain ⟨d, hd, hb⟩ := Op.exists_deed hf
      cases hd
      exact (exists_slotPath hb).elim fun _ h => h.2
  | .closing b call expected? => by
      obtain ⟨d, hd, hb⟩ := Op.exists_deed hf
      cases hd
      obtain ⟨f, fs, -, hb⟩ := perform?_close_eq_some_iff.1 hb
      rw [← hb]
      rfl
  | .put call hv hp => by
      obtain ⟨d, hd, hb⟩ := Op.exists_deed hf
      cases hd with
      | put _ _ hw => exact registry_of_made hb hp (hw.symm.trans hv)
  | .putNamed call hv hp => by
      obtain ⟨d, hd, hb⟩ := Op.exists_deed hf
      cases hd with
      | putNamed _ _ hw => exact registry_of_made hb hp (hw.symm.trans hv)
  | .add hv hp => by
      obtain ⟨d, hd, hb⟩ := Op.exists_deed hf
      cases hd with
      | add _ hw => exact registry_of_made hb hp (hw.symm.trans hv)
  | .eachKey b rules example? => by
      obtain ⟨d, hd, hb⟩ := Op.exists_deed hf
      cases hd
      rw [← Option.some.inj hb]
      simp [Log.notes, Rule.under_note]
  | .arrayLike c hp hl => by
      -- The element has to be spoken of before its deed is looked at, or the call is not
      -- seen to be on a smaller log.
      have ih := fun s hs => hl.registry_of_realize (s := s) hs
      obtain ⟨d, hd, hb⟩ := Op.exists_deed hf
      cases hd with
      | arrayLike _ hc hs =>
          rw [registry_of_write hb hp, c.pushAll_notes (ih _ hs)]
  | .graft hp hl => by
      have ih := hl.registry_eq
      obtain ⟨d, hd, hb⟩ := Op.exists_deed hf
      cases hd
      rw [registry_of_write hb hp, ih, Registry.pushAll_under_notes]
  | .graftAt b target hl => by
      have ih := hl.registry_eq
      obtain ⟨d, hd, hb⟩ := Op.exists_deed hf
      cases hd
      obtain ⟨document, -, hb⟩ := perform?_writeAt_eq_some_iff.1 hb
      rw [← hb, ih, Registry.pushAll_under_notes]

theorem Element.HasLog.registry_of_realize {config : Config} {element : Element} {l : Log}
    {s : Subtree} :
    element.HasLog config l → element.realize config = .ok s →
      s.registry = ({} : Registry).pushAll l.notes
  | .value hv, hs => by
      rw [Element.realize, hv] at hs
      cases hs
      exact Subtree.registry_ofGenerated _
  | .subtree config hl, hs => by
      have ih := hl.registry_eq
      cases hs
      exact ih
  | .template lenient hl, hs => by
      rw [(finish_eq_ok_iff.1 (Element.finish_of_realize hs)).2.2]
      exact hl.registry_after

end

/-! ## Every run has a log -/

mutual

def Op.subtrees : Op → List Subtree
  | .graft _ s => [s]
  | .graftAt _ s => [s]
  | .arrayLike _ _ element => element.subtrees
  | .opening .. | .closing .. | .put .. | .putNamed .. | .add .. | .eachKey .. => []

def Element.subtrees : Element → List Subtree
  | .value _ => []
  | .subtree s => [s]
  | .template _ calls _ => Op.subtreesOf calls

def Op.subtreesOf : List Op → List Subtree
  | [] => []
  | op :: ops => op.subtrees ++ Op.subtreesOf ops

end

/-- A subtree that calls have led to: a value, or what a builder was finished as
that was handed such subtrees only. -/
inductive Subtree.Built : Subtree → Prop
  | value (g : Generated) : Subtree.Built (.ofGenerated g)
  | finished {kind : Kind} {config : Config} {ops : List Op} {s : Subtree}
    (hops : ∀ t ∈ Op.subtreesOf ops, Subtree.Built t)
    (hs : ((new kind config).after ops).finish = .ok s) : Subtree.Built s

mutual

theorem Op.exists_hasLog {b : Builder} :
    (op : Op) → (op.run b).failure? = none → (∀ s ∈ op.subtrees, ∃ l, s.HasLog l) →
      ∃ l, Op.HasLog b op l
  | .opening call kind slot, _, _ => ⟨_, .opening b call kind slot⟩
  | .closing call expected?, _, _ => ⟨_, .closing b call expected?⟩
  | .put call slot g, hf, _ => by
      obtain ⟨d, hd, hb⟩ := Op.exists_deed hf
      cases hd with
      | put _ _ hv =>
          obtain ⟨p, hp, -⟩ := exists_slotPath hb
          exact ⟨_, .put call hv hp⟩
  | .putNamed call name g, hf, _ => by
      obtain ⟨d, hd, hb⟩ := Op.exists_deed hf
      cases hd with
      | putNamed _ _ hv =>
          obtain ⟨p, hp, -⟩ := exists_slotPath hb
          exact ⟨_, .putNamed call hv hp⟩
  | .add slot g, hf, _ => by
      obtain ⟨d, hd, hb⟩ := Op.exists_deed hf
      cases hd with
      | add _ hv =>
          obtain ⟨p, hp, -⟩ := exists_slotPath hb
          exact ⟨_, .add hv hp⟩
  | .eachKey rules example?, _, _ => ⟨_, .eachKey b rules example?⟩
  | .arrayLike slot c element, hf, hs => by
      have ih := fun s (hmade : element.realize b.config = .ok s) => element.exists_hasLog hmade hs
      obtain ⟨d, hd, hb⟩ := Op.exists_deed hf
      cases hd with
      | arrayLike _ hc hmade =>
          obtain ⟨p, hp, -⟩ := exists_slotPath hb
          obtain ⟨l, hl⟩ := ih _ hmade
          exact ⟨_, .arrayLike c hp hl⟩
  | .graft slot s, hf, hs => by
      obtain ⟨l, hl⟩ := hs s (by simp [Op.subtrees])
      obtain ⟨d, hd, hb⟩ := Op.exists_deed hf
      cases hd
      obtain ⟨p, hp, -⟩ := exists_slotPath hb
      exact ⟨_, .graft hp hl⟩
  | .graftAt target s, _, hs => by
      obtain ⟨l, hl⟩ := hs s (by simp [Op.subtrees])
      exact ⟨_, .graftAt b target hl⟩

theorem Element.exists_hasLog {config : Config} {s : Subtree} :
    (element : Element) → element.realize config = .ok s →
      (∀ t ∈ element.subtrees, ∃ l, t.HasLog l) → ∃ l, element.HasLog config l
  | .value g, hmade, _ => by
      obtain ⟨v, hv, -⟩ := Element.realize_value_eq_ok_iff.1 hmade
      exact ⟨_, .value hv⟩
  | .subtree t, _, hs => by
      obtain ⟨l, hl⟩ := hs t (by simp [Element.subtrees])
      exact ⟨l, .subtree config hl⟩
  | .template kind calls lenient, _, hs => by
      obtain ⟨l, hl⟩ := Builder.exists_hasLog calls hs
      exact ⟨l, .template lenient hl⟩

/-- Calls have a log, whether they fail or not, if their subtrees have. -/
theorem Builder.exists_hasLog {b : Builder} :
    (ops : List Op) → (∀ s ∈ Op.subtreesOf ops, ∃ l, s.HasLog l) → ∃ l, b.HasLog ops l
  | [], _ => ⟨[], .nil b⟩
  | op :: ops, hs => by
      obtain ⟨l', hl'⟩ := Builder.exists_hasLog (b := (op.run b).builder) ops fun s h =>
        hs s (List.mem_append_right _ h)
      cases hf : (op.run b).failure? with
      | some f => exact ⟨l', .failed hf hl'⟩
      | none =>
          obtain ⟨l, hl⟩ := Op.exists_hasLog op hf fun s h => hs s (List.mem_append_left _ h)
          exact ⟨l ++ l', .made hf hl hl'⟩

end

theorem Subtree.Built.exists_hasLog {s : Subtree} (h : s.Built) : ∃ l, s.HasLog l := by
  induction h with
  | value g => exact ⟨_, .value g⟩
  | finished hops hs ih =>
      obtain ⟨l, hl⟩ := Builder.exists_hasLog _ ih
      exact ⟨l, .finished hl hs⟩

theorem Subtree.HasLog.groups {s : Subtree} {l : Log} (h : s.HasLog l) : s.registry.Groups l := by
  rw [h.registry_eq]
  exact Registry.groups_pushAll l

theorem Builder.HasLog.groups {kind : Kind} {config : Config} {ops : List Op} {l : Log}
    (h : (new kind config).HasLog ops l) : ((new kind config).after ops).registry.Groups l := by
  rw [h.registry_after]
  exact Registry.groups_pushAll l

/-- In every run whose subtrees have come about by calls there is a log, and the
registry is the log grouped by written forms, whatever the log: the forms by their
first use, and under each the rules of all paths with this form, as they were
given. The same holds for the registry of every subtree that has come about so.
Forms and rules that were there at some moment are there ever after, in the same
order and before all later ones. -/
theorem registry_groups_log {kind : Kind} {config : Config} {ops : List Op}
    (h : ∀ s ∈ Op.subtreesOf ops, s.Built) :
    (∃ l, (new kind config).HasLog ops l) ∧
    (∀ l, (new kind config).HasLog ops l → ((new kind config).after ops).registry.Groups l) ∧
    (∀ s : Subtree, s.Built → (∃ l, s.HasLog l) ∧ ∀ l, s.HasLog l → s.registry.Groups l) ∧
    (∀ earlier later, ops = earlier ++ later →
      ((new kind config).after earlier).registry.paths <+:
        ((new kind config).after ops).registry.paths ∧
      ∀ form, (((new kind config).after earlier).registry.get? form).getD [] <+:
        (((new kind config).after ops).registry.get? form).getD []) := by
  refine ⟨?_, fun l hl => hl.groups, ?_, ?_⟩
  · exact Builder.exists_hasLog ops fun s hs => (h s hs).exists_hasLog
  · exact fun s hs => ⟨hs.exists_hasLog, fun l hl => hl.groups⟩
  · rintro earlier later rfl
    obtain ⟨notes, hr⟩ := exists_registry_after ((new kind config).after earlier) later
    rw [after_append, hr]
    exact ⟨Registry.paths_prefix_pushAll _ _, Registry.get?_prefix_pushAll _ _⟩

/-- Calls that put a rule at a path and another one at a path with the same form. -/
def lookalike : List Op :=
  [.pushObject (.key "a"), .stringType (.key "b") none, .pop,
    .graft (.key "a.b") (.ofGenerated (.matched .null (.number .integer)))]

theorem registry_groups_log_of_lookalike :
    (∀ s ∈ Op.subtreesOf lookalike, s.Built) ∧
    (new .object {}).HasLog lookalike
      [([.key "a", .key "b"], .exactType), ([.key "a.b"], .number .integer)] ∧
    ((new .object {}).after lookalike).registry.paths = ["$.a.b"] ∧
    ((new .object {}).after lookalike).registry.get? "$.a.b" =
      some [.exactType, .number .integer] := by
  have hbuilt : ∀ s ∈ Op.subtreesOf lookalike, s.Built := by
    intro s hs
    obtain rfl := List.mem_singleton.1 hs
    exact .value _
  have hlog : (new .object {}).HasLog lookalike
      [([.key "a", .key "b"], .exactType), ([.key "a.b"], .number .integer)] := by
    refine .made (l := []) rfl (.opening ..) ?_
    refine .made (l := [([.key "a", .key "b"], .exactType)]) rfl ?_ ?_
    · exact .put "string_type" (v := .matched (.str "string") .exactType) rfl rfl
    refine .made (l := []) rfl (.closing ..) ?_
    refine .made (l := [([.key "a.b"], .number .integer)]) rfl ?_ (.nil _)
    exact .graft (p := [.key "a.b"]) rfl (.value (.matched .null (.number .integer)))
  have hgroups := (registry_groups_log hbuilt).2.1 _ hlog
  exact ⟨hbuilt, hlog, hgroups.paths, hgroups.rules "$.a.b"⟩

end Exemplar
