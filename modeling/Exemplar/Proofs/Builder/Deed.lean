import Exemplar.Proofs.Builder.Move
import Exemplar.Proofs.Document.Update
import Exemplar.Proofs.Registry.Grouping

/-!
# What a call does

A call that succeeds does one of four things: it writes a value into a slot of
the current container, which it may open then; it closes a container; it notes
rules at the current container; or it writes a value at a path. A `Deed` is such
a thing with all that it needs, and `Op.run_eq_ok_iff` says that a call succeeds
exactly if it does a deed that can be done. What calls have in common is shown
for deeds from here on. Which deed it is depends on the configuration and on the
kind of the current container, but neither on the document nor on the rules.

The notes of a deed are written as if the value was a document of its own, and
are put in below the path that it gets.
-/

namespace Exemplar

/-- What a call does to a builder. -/
inductive Deed where
  /-- Put a value into a slot of the current container, and open it if it is to be. -/
  | write (slot : Slot) (v : Json) (notes : List Note) (opens? : Option Kind)
  | close
  | note (notes : List Note)
  | writeAt (target : Path) (v : Json) (notes : List Note)

def Rule.note (rule : Rule) : Note := (Path.root.render, rule)

def Generated.notes (g : Generated) : List Note := g.rule?.toList.map Rule.note

def Cardinality.notes (c : Cardinality) (element : Subtree) : List Note :=
  c.rules.map Rule.note ++ element.registry.notes.map (Note.under [.wildcard])

theorem Rule.under_note (p : Path) (rule : Rule) : rule.note.under p = (p.render, rule) := by
  rw [Rule.note, Note.under_render, Path.root, List.append_nil]

theorem Cardinality.map_under_notes (c : Cardinality) (element : Subtree) (p : Path) :
    (c.notes element).map (Note.under p) = c.rules.map (p.render, ·) ++
      element.registry.notes.map (Note.under (p.extend .wildcard)) := by
  simp [Cardinality.notes, Function.comp_def, Rule.under_note, Note.under_under, Path.extend]

def Builder.perform? (b : Builder) : Deed → Option Builder
  | .write slot v notes opens? =>
    (b.document.insertAt? b.current.path slot v).map fun (document, p) =>
      { b with
        document
        registry := b.registry.pushAll (notes.map (Note.under p))
        frames := (opens?.map fun kind => ⟨kind, p⟩).toList ++ b.frames }
  | .close =>
    match b.frames with
    | [] => none
    | _ :: frames => some { b with frames }
  | .note notes =>
    some { b with registry := b.registry.pushAll (notes.map (Note.under b.current.path)) }
  | .writeAt target v notes =>
    (b.documentWith target v).toOption.map fun document =>
      { b with document, registry := b.registry.pushAll (notes.map (Note.under target)) }

open Builder Builder.Move

/-- The deed that a call does if it succeeds. -/
inductive Op.Does (b : Builder) : Op → Deed → Prop
  | opening (call : String) (kind : Kind) (slot : Slot) :
    Op.Does b (.opening call kind slot) (.write slot (.empty kind) [] (some kind))
  | closing (call : String) {expected? : Option Kind} (h : ∀ k ∈ expected?, k = b.current.kind) :
    Op.Does b (.closing call expected?) .close
  | put (call : String) (slot : Slot) {g : Generator} {v : Generated}
    (h : g.make b.config = .ok v) :
    Op.Does b (.put call slot g) (.write slot v.value v.notes none)
  | putNamed (call name : String) {g : Generator} {v : Generated} (h : g.make b.config = .ok v) :
    Op.Does b (.putNamed call name g) (.write (b.defaultSlot name) v.value v.notes none)
  | add (slot : Slot) {g : Generator} {v : Generated} (h : g.make b.config = .ok v) :
    Op.Does b (.add slot g) (.write slot v.value v.notes none)
  | eachKey (rules : List Rule) (example? : Option String) (h : b.current.kind = .object) :
    Op.Does b (.eachKey rules example?) (.note [(Rule.eachKey rules example?).note])
  | arrayLike (slot : Slot) {c : Cardinality} {element : Element} {s : Subtree}
    (hc : c.check = .ok ()) (h : element.realize b.config = .ok s) :
    Op.Does b (.arrayLike slot c element)
      (.write slot (.arr (List.replicate (c.examples?.getD b.config.samples.examples) s.document))
        (c.notes s) none)
  | graft (slot : Slot) (s : Subtree) :
    Op.Does b (.graft slot s) (.write slot s.document s.registry.notes none)
  | graftAt (target : Path) (s : Subtree) :
    Op.Does b (.graftAt target s) (.writeAt target s.document s.registry.notes)

theorem Generator.orRefuse_eq_ok_iff {α : Type} {r : Except BuildError α} {a : α} :
    orRefuse r = .ok a ↔ r = .ok a := by
  constructor
  · intro h
    cases r with
    | error e => cases h
    | ok a' =>
        cases h
        rfl
  · rintro rfl
    rfl

theorem Element.realize_value_eq_ok_iff {config : Config} {g : Generator} {s : Subtree} :
    (Element.value g).realize config = .ok s ↔
      ∃ v, g.make config = .ok v ∧ s = .ofGenerated v := by
  rw [Element.realize]
  cases g.make config <;> simp [Except.map, eq_comm]

theorem Element.failure?_eq_none {element : Element} {config : Config} {s : Subtree}
    (h : element.realize config = .ok s) : element.failure? config = none := by
  cases element with
  | value g =>
      obtain ⟨v, hv, -⟩ := Element.realize_value_eq_ok_iff.1 h
      simp [Element.failure?, hv]
  | subtree s => rfl
  | template kind calls lenient => rfl

namespace Builder

variable {b b' : Builder}

/-- A value is put at a path by an update that no open container is lost by. -/
theorem documentWith_eq_ok_iff {target : Path} {v document : Json} :
    b.documentWith target v = .ok document ↔
      ∃ p s, target = p.extend s ∧ (∀ f ∈ b.frames, ¬ target <+: f.path) ∧
        b.document.putAt? p s v = some document := by
  rcases List.eq_nil_or_concat target with rfl | ⟨p, s, rfl⟩
  · simp [documentWith, Path.extend]
  · have hfree : (∀ f ∈ b.frames, ¬ p.concat s <+: f.path) ↔
        b.frames.any ((p.concat s).isPrefixOf ·.path) = false := by
      simp [← List.isPrefixOf_iff_prefix]
    have hstep : ∀ q t, p.concat s = Path.extend q t ↔ q = p ∧ t = s := by
      simp [Path.extend, eq_comm]
    simp only [hfree, hstep, and_assoc, exists_and_left, exists_eq_left, Json.putAt?]
    rw [documentWith, List.concat_eq_append, List.getLast?_concat, List.dropLast_concat]
    cases b.frames.any ((p ++ [s]).isPrefixOf ·.path) with
    | true => simp
    | false =>
        cases hc : b.document.at? p with
        | none => simp [hc]
        | some c =>
            cases hput : c.putChild s v with
            | error fault => simp [hc, hput, Except.toOption]
            | ok c' =>
                have hsome : (b.document.at? p).isSome := by simp [hc]
                simp [hc, hput, Except.toOption, Json.set?_eq_some_replace hsome]

/-! ## Deeds that can be done -/

theorem perform?_write_eq_some_iff {slot : Slot} {v : Json} {notes : List Note}
    {opens? : Option Kind} :
    b.perform? (.write slot v notes opens?) = some b' ↔
      ∃ document p, b.document.insertAt? b.current.path slot v = some (document, p) ∧
        { b with
          document
          registry := b.registry.pushAll (notes.map (Note.under p))
          frames := (opens?.map fun kind => ⟨kind, p⟩).toList ++ b.frames } = b' := by
  simp only [perform?, Option.map_eq_some_iff, Prod.exists]

theorem perform?_close_eq_some_iff :
    b.perform? .close = some b' ↔ ∃ f fs, b.frames = f :: fs ∧ { b with frames := fs } = b' := by
  rw [perform?]
  cases b.frames <;> simp

theorem perform?_writeAt_eq_some_iff {target : Path} {v : Json} {notes : List Note} :
    b.perform? (.writeAt target v notes) = some b' ↔
      ∃ document, b.documentWith target v = .ok document ∧
        { b with
          document
          registry := b.registry.pushAll (notes.map (Note.under target)) } = b' := by
  simp only [perform?, Option.map_eq_some_iff, toOption_eq_some_iff]

/-- Whatever a deed is, the registry grows by notes that are put below a path. -/
theorem exists_registry_of_perform {d : Deed} (h : b.perform? d = some b') :
    ∃ (p : Path) (notes : List Note),
      b'.registry = b.registry.pushAll (notes.map (Note.under p)) := by
  cases d with
  | write slot v notes opens? =>
      obtain ⟨document, p, -, rfl⟩ := perform?_write_eq_some_iff.1 h
      exact ⟨p, notes, rfl⟩
  | close =>
      obtain ⟨f, fs, -, rfl⟩ := perform?_close_eq_some_iff.1 h
      exact ⟨[], [], rfl⟩
  | note notes =>
      cases h
      exact ⟨b.current.path, notes, rfl⟩
  | writeAt target v notes =>
      obtain ⟨document, -, rfl⟩ := perform?_writeAt_eq_some_iff.1 h
      exact ⟨target, notes, rfl⟩

theorem config_of_perform {d : Deed} (h : b.perform? d = some b') :
    b'.config = b.config ∧ b'.rootKind = b.rootKind ∧ b'.poisoned = b.poisoned := by
  cases d with
  | write slot v notes opens? =>
      obtain ⟨document, q, -, rfl⟩ := perform?_write_eq_some_iff.1 h
      exact ⟨rfl, rfl, rfl⟩
  | close =>
      obtain ⟨f, fs, -, rfl⟩ := perform?_close_eq_some_iff.1 h
      exact ⟨rfl, rfl, rfl⟩
  | note notes =>
      cases h
      exact ⟨rfl, rfl, rfl⟩
  | writeAt target v notes =>
      obtain ⟨document, -, rfl⟩ := perform?_writeAt_eq_some_iff.1 h
      exact ⟨rfl, rfl, rfl⟩

/-! ## The moves as deeds -/

theorem place_bind_eq_ok_iff {call : String} {slot : Slot} {v : Json} {k : Path → Move Unit}
    {f : Path → Builder → Builder} (hk : ∀ p b, k p b = .ok () (f p b)) :
    (place call slot v >>= k) b = .ok () b' ↔
      (b.document.insertAt? b.current.path slot v).map
        (fun (document, p) => f p { b with document }) = some b' := by
  rw [bind_eq_ok_iff, Option.map_eq_some_iff]
  constructor
  · rintro ⟨p, b₁, hp, h⟩
    obtain ⟨document, hins, rfl⟩ := place_eq_ok_iff.1 hp
    rw [hk] at h
    cases h
    exact ⟨(document, p), hins, rfl⟩
  · rintro ⟨⟨document, p⟩, hins, rfl⟩
    exact ⟨p, { b with document }, place_eq_ok_iff.2 ⟨document, hins, rfl⟩, hk ..⟩

theorem openContainer_eq_ok_iff {call : String} {kind : Kind} {slot : Slot} :
    openContainer call kind slot b = .ok () b' ↔
      b.perform? (.write slot (.empty kind) [] (some kind)) = some b' :=
  place_bind_eq_ok_iff fun _ _ => rfl

theorem putGenerated_eq_ok_iff {call : String} {slot : Slot} {g : Generated} :
    putGenerated call slot g b = .ok () b' ↔
      b.perform? (.write slot g.value g.notes none) = some b' := by
  refine (place_bind_eq_ok_iff (f := fun p b =>
    { b with registry := b.registry.pushAll (g.notes.map (Note.under p)) }) ?_).trans Iff.rfl
  intro p b
  cases hr : g.rule? with
  | none =>
      rw [Generated.notes, hr]
      rfl
  | some rule =>
      rw [Generated.notes, hr, Option.toList_some, List.map_singleton, List.map_singleton,
        Rule.under_note]
      rfl

theorem graft_eq_ok_iff {slot : Slot} {s : Subtree} :
    graft slot s b = .ok () b' ↔
      b.perform? (.write slot s.document s.registry.notes none) = some b' := by
  refine (place_bind_eq_ok_iff (f := fun p b =>
    { b with registry := b.registry.mergeAt p s.registry }) fun _ _ => rfl).trans ?_
  simp only [Registry.mergeAt_eq_pushAll]
  rfl

theorem placeArray_eq_ok_iff {slot : Slot} {c : Cardinality} {s : Subtree} :
    placeArray slot c s b = .ok () b' ↔
      b.perform? (.write slot
        (.arr (List.replicate (c.examples?.getD b.config.samples.examples) s.document))
        (c.notes s) none) = some b' := by
  refine (place_bind_eq_ok_iff (f := fun p b =>
    { b with registry := (b.registry.extendAt p c.rules).mergeAt (p.extend .wildcard) s.registry })
    fun _ _ => rfl).trans ?_
  simp only [Registry.mergeAt_eq_pushAll, Registry.extendAt_eq_pushAll, ← Registry.pushAll_append]
  simp [perform?, Cardinality.notes, Rule.under_note, Function.comp_def, Note.under_under,
    Path.extend]

theorem closeContainer_eq_ok_iff {call : String} {expected? : Option Kind} :
    closeContainer call expected? b = .ok () b' ↔
      (∀ k ∈ expected?, k = b.current.kind) ∧ b.perform? .close = some b' := by
  rw [closeContainer_apply]
  cases hf : b.frames with
  | nil => simp [perform?, hf]
  | cons frame frames =>
      have hk : b.current.kind = frame.kind := by simp [current, hf]
      cases expected? with
      | none => simp [perform?, hf]
      | some k => by_cases h : k = frame.kind <;> simp [perform?, Option.filter, hf, hk, h]

theorem eachKey_eq_ok_iff {rules : List Rule} {example? : Option String} :
    eachKey rules example? b = .ok () b' ↔ b.current.kind = .object ∧
      b.perform? (.note [(Rule.eachKey rules example?).note]) = some b' := by
  rw [eachKey_apply]
  cases b.current.kind <;> simp [perform?, Rule.under_note, Registry.add]

theorem graftAt_eq_ok_iff {target : Path} {s : Subtree} :
    graftAt target s b = .ok () b' ↔
      b.perform? (.writeAt target s.document s.registry.notes) = some b' := by
  rw [graftAt_apply]
  cases hd : b.documentWith target s.document <;>
    simp [perform?, Except.toOption, Registry.mergeAt_eq_pushAll, hd]

theorem emit_eq_ok_iff {call : String} {slot : Slot} {made : Except Failure Generated} :
    b.emit call slot made = ⟨b', none⟩ ↔
      b.poisoned = false ∧ ∃ v, made = .ok v ∧
        b.perform? (.write slot v.value v.notes none) = some b' := by
  cases made with
  | ok v => simp [emit, guard_eq_ok_iff, putGenerated_eq_ok_iff]
  | error f =>
      cases f with
      | outOfCalendar => simp [emit]
      | refused e => simp [emit, guard_eq_ok_iff, refuse_ne_ok]

end Builder

/-- A call succeeds exactly if the builder has not failed before and the call does
a deed that can be done. -/
theorem Op.run_eq_ok_iff {b b' : Builder} {op : Op} :
    op.run b = ⟨b', none⟩ ↔
      b.poisoned = false ∧ ∃ d, op.Does b d ∧ b.perform? d = some b' := by
  constructor
  · intro h
    cases op with
    | opening call kind slot =>
        obtain ⟨hp, h⟩ := guard_eq_ok_iff.1 h
        exact ⟨hp, _, .opening call kind slot, openContainer_eq_ok_iff.1 h⟩
    | closing call expected? =>
        obtain ⟨hp, h⟩ := guard_eq_ok_iff.1 h
        obtain ⟨hk, h⟩ := closeContainer_eq_ok_iff.1 h
        exact ⟨hp, _, .closing call hk, h⟩
    | put call slot g =>
        obtain ⟨hp, v, hv, h⟩ := emit_eq_ok_iff.1 h
        exact ⟨hp, _, .put call slot hv, h⟩
    | putNamed call name g =>
        obtain ⟨hp, v, hv, h⟩ := emit_eq_ok_iff.1 h
        exact ⟨hp, _, .putNamed call name hv, h⟩
    | add slot g =>
        rw [Op.run] at h
        cases hg : g.make b.config with
        | error f => simp [hg] at h
        | ok v =>
            rw [hg] at h
            obtain ⟨hp, w, hw, h⟩ := emit_eq_ok_iff.1 h
            cases hw
            exact ⟨hp, _, .add slot hg, h⟩
    | eachKey rules example? =>
        obtain ⟨hp, h⟩ := guard_eq_ok_iff.1 h
        obtain ⟨hk, h⟩ := eachKey_eq_ok_iff.1 h
        exact ⟨hp, _, .eachKey rules example? hk, h⟩
    | arrayLike slot c element =>
        rw [Op.run] at h
        cases he : element.failure? b.config with
        | some f => simp [he] at h
        | none =>
            rw [he] at h
            obtain ⟨hp, h⟩ := guard_eq_ok_iff.1 h
            obtain ⟨u, b₁, hfirst, hrest⟩ := bind_eq_ok_iff.1 h
            obtain ⟨hcheck, rfl⟩ := obtained_eq_ok_iff.1 hfirst
            obtain ⟨s, b₂, hsecond, hplace⟩ := bind_eq_ok_iff.1 hrest
            obtain ⟨hmade, rfl⟩ := obtained_eq_ok_iff.1 hsecond
            exact ⟨hp, _, .arrayLike slot (Generator.orRefuse_eq_ok_iff.1 hcheck) hmade,
              placeArray_eq_ok_iff.1 hplace⟩
    | graft slot s =>
        obtain ⟨hp, h⟩ := guard_eq_ok_iff.1 h
        exact ⟨hp, _, .graft slot s, graft_eq_ok_iff.1 h⟩
    | graftAt target s =>
        obtain ⟨hp, h⟩ := guard_eq_ok_iff.1 h
        exact ⟨hp, _, .graftAt target s, graftAt_eq_ok_iff.1 h⟩
  · rintro ⟨hp, d, hd, h⟩
    cases hd with
    | opening call kind slot => exact guard_eq_ok_iff.2 ⟨hp, openContainer_eq_ok_iff.2 h⟩
    | closing call hk => exact guard_eq_ok_iff.2 ⟨hp, closeContainer_eq_ok_iff.2 ⟨hk, h⟩⟩
    | put call slot hv => exact emit_eq_ok_iff.2 ⟨hp, _, hv, h⟩
    | putNamed call name hv => exact emit_eq_ok_iff.2 ⟨hp, _, hv, h⟩
    | add slot hv =>
        rw [Op.run, hv]
        exact emit_eq_ok_iff.2 ⟨hp, _, rfl, h⟩
    | eachKey rules example? hk => exact guard_eq_ok_iff.2 ⟨hp, eachKey_eq_ok_iff.2 ⟨hk, h⟩⟩
    | arrayLike slot hc hs =>
        rename_i c element s
        have he : element.failure? b.config = none := Element.failure?_eq_none hs
        have hcheck : Generator.orRefuse c.check = .ok () := Generator.orRefuse_eq_ok_iff.2 hc
        rw [Op.run, he, hcheck, hs]
        exact guard_eq_ok_iff.2 ⟨hp, placeArray_eq_ok_iff.2 h⟩
    | graft slot s => exact guard_eq_ok_iff.2 ⟨hp, graft_eq_ok_iff.2 h⟩
    | graftAt target s => exact guard_eq_ok_iff.2 ⟨hp, graftAt_eq_ok_iff.2 h⟩

end Exemplar
