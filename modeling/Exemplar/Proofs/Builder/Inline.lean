import Exemplar.Builder.Call
import Exemplar.Proofs.Builder.Frames

/-!
# Building in place

A subtree can be built by itself and put into a slot, or it can be built in place:
the container is opened in the slot, the same calls are made, and it is closed.
Both come to the same, with the same document, the same rules in the same order,
and the same containers open behind it.

While calls are made in place, the builder is always the one that `nest` makes of
two builders: the builder `host` in which the container has been opened at `p`,
and the builder `c` that the same calls lead to from an empty root. What `c` can
do, the nested builder can do with `p` in front of all paths: `perform_nest` is
this step for deeds, and `runStrict_nest` the run. The rules are the hard part.
The nested builder has them in the order of the calls, and `c` has grouped them;
that this cannot be told apart once they have been merged into the registry of the
host is `Registry.mergeAt_pushAll`.
-/

namespace Exemplar

open Builder

def Frame.under (p : Path) (f : Frame) : Frame := { f with path := p ++ f.path }

/-- A call that is made below a path. The only path that a call is given is the
target of a graft; a template has a root of its own. -/
def Op.rebase (p : Path) : Op → Op
  | .graftAt target s => .graftAt (p ++ target) s
  | op => op

def Deed.rebase (p : Path) : Deed → Deed
  | .writeAt target v notes => .writeAt (p ++ target) v notes
  | d => d

namespace Builder

/-- A builder that goes on inside another one, in the container that is open there
at a path. -/
def nest (host : Builder) (p : Path) (c : Builder) : Builder :=
  { host with
    document := host.document.replace p c.document
    registry := host.registry.mergeAt p c.registry
    frames := c.frames.map (Frame.under p) ++ host.frames }

/-- What has to be there for a builder to go on inside another one. -/
structure Hosts (host : Builder) (p : Path) (c : Builder) : Prop where
  isSome_at : (host.document.at? p).isSome
  head_frames : host.frames.head? = some ⟨c.rootKind, p⟩
  path_prefix : ∀ f ∈ host.frames, f.path <+: p
  config : host.config = c.config
  grouped : c.registry.Grouped

variable {host c c' : Builder} {p : Path}

theorem grouped_of_perform {d : Deed} (hc : c.registry.Grouped) (h : c.perform? d = some c') :
    c'.registry.Grouped := by
  obtain ⟨q, notes, hr⟩ := exists_registry_of_perform h
  rw [hr]
  refine hc.pushAll fun n hn => ?_
  obtain ⟨m, -, rfl⟩ := List.mem_map.1 hn
  exact Registry.rooted_reroot q m.1

namespace Hosts

theorem perform (h : Hosts host p c) {d : Deed} (hd : c.perform? d = some c') :
    Hosts host p c' := by
  obtain ⟨hconfig, hkind, -⟩ := config_of_perform hd
  exact ⟨h.isSome_at, hkind ▸ h.head_frames, h.path_prefix, hconfig ▸ h.config,
    grouped_of_perform h.grouped hd⟩

theorem current_nest (h : Hosts host p c) : (host.nest p c).current = c.current.under p := by
  rw [current, current, nest]
  cases c.frames with
  | nil => simp [h.head_frames, rootFrame, Frame.under, Path.root]
  | cons f fs => rfl

/-- A target below the path encloses an open container of the nested builder only
if it does so in the builder that goes on inside. -/
theorem prefix_nest (h : Hosts host p c) {q : Path} {s : Segment}
    (hfree : ∀ f ∈ c.frames, ¬ q.extend s <+: f.path) :
    ∀ f ∈ (host.nest p c).frames, ¬ p ++ q.extend s <+: f.path := by
  intro f hf hpre
  rcases List.mem_append.1 hf with hf | hf
  · obtain ⟨g, hg, rfl⟩ := List.mem_map.1 hf
    exact hfree g hg ((List.prefix_append_right_inj p).1 hpre)
  -- The containers of the host lie on the way to `p`, and the target lies behind it.
  · have hlen := (hpre.trans (h.path_prefix f hf)).length_le
    rw [Path.extend, List.length_append, List.length_append, List.length_singleton] at hlen
    omega

theorem mergeAt_nest (h : Hosts host p c) (q : Path) (notes : List Note) :
    (host.nest p c).registry.pushAll (notes.map (Note.under (p ++ q))) =
      host.registry.mergeAt p (c.registry.pushAll (notes.map (Note.under q))) :=
  (Registry.mergeAt_pushAll host.registry h.grouped p q notes).symm

theorem documentWith_nest (h : Hosts host p c) {target : Path} {v document : Json}
    (hdoc : c.documentWith target v = .ok document) :
    (host.nest p c).documentWith (p ++ target) v =
      .ok (host.document.replace p document) := by
  obtain ⟨q, s, rfl, hfree, hput⟩ := documentWith_eq_ok_iff.1 hdoc
  refine documentWith_eq_ok_iff.2 ⟨p ++ q, s, ?_, h.prefix_nest hfree, ?_⟩
  · simp [Path.extend]
  · rw [nest, Json.putAt?_replace h.isSome_at, hput, Option.map_some]

/-- What a builder can do, it can do inside another one. -/
theorem perform_nest (h : Hosts host p c) {d : Deed} (hd : c.perform? d = some c') :
    (host.nest p c).perform? (d.rebase p) = some (host.nest p c') := by
  cases d with
  | write slot v notes opens? =>
      obtain ⟨document, q, hins, rfl⟩ := perform?_write_eq_some_iff.1 hd
      have hnest : (host.nest p c).document.insertAt? (host.nest p c).current.path slot v =
          some (host.document.replace p document, p ++ q) := by
        rw [h.current_nest, nest, Frame.under, Json.insertAt?_replace h.isSome_at, hins]
        rfl
      refine perform?_write_eq_some_iff.2 ⟨_, _, hnest, ?_⟩
      rw [h.mergeAt_nest]
      cases opens? <;> rfl
  | close =>
      obtain ⟨f, fs, hf, rfl⟩ := perform?_close_eq_some_iff.1 hd
      refine perform?_close_eq_some_iff.2 ⟨f.under p, fs.map (Frame.under p) ++ host.frames, ?_, rfl⟩
      simp [nest, hf]
  | note notes =>
      cases hd
      change (host.nest p c).perform? (.note notes) = _
      rw [perform?, h.current_nest, Frame.under, h.mergeAt_nest]
      rfl
  | writeAt target v notes =>
      obtain ⟨document, hdoc, rfl⟩ := perform?_writeAt_eq_some_iff.1 hd
      refine perform?_writeAt_eq_some_iff.2 ⟨_, h.documentWith_nest hdoc, ?_⟩
      rw [h.mergeAt_nest]
      rfl

/-- A call does inside another builder what it does by itself. -/
theorem does_nest (h : Hosts host p c) {op : Op} {d : Deed} (hd : op.Does c d) :
    (op.rebase p).Does (host.nest p c) (d.rebase p) := by
  have hconfig : (host.nest p c).config = c.config := h.config
  have hkind : (host.nest p c).current.kind = c.current.kind := by rw [h.current_nest, Frame.under]
  cases hd with
  | opening call kind slot => exact .opening call kind slot
  | closing call hk => exact .closing call (hkind ▸ hk)
  | put call slot hv => exact .put call slot (hconfig ▸ hv)
  | putNamed call name hv =>
      have hslot : (host.nest p c).defaultSlot name = c.defaultSlot name := by
        rw [defaultSlot, defaultSlot, hkind]
      rw [← hslot]
      exact .putNamed call name (hconfig ▸ hv)
  | add slot hv => exact .add slot (hconfig ▸ hv)
  | eachKey rules example? hk => exact .eachKey rules example? (hkind ▸ hk)
  | arrayLike slot hc hs =>
      rw [← hconfig] at hs ⊢
      exact .arrayLike slot hc hs
  | graft slot s => exact .graft slot s
  | graftAt target s => exact .graftAt (p ++ target) s

theorem run_nest (h : Hosts host p c) (hhost : host.poisoned = false) {op : Op}
    (hrun : op.run c = ⟨c', none⟩) :
    (op.rebase p).run (host.nest p c) = ⟨host.nest p c', none⟩ ∧ Hosts host p c' := by
  obtain ⟨-, d, hd, hperform⟩ := Op.run_eq_ok_iff.1 hrun
  refine ⟨Op.run_eq_ok_iff.2 ⟨hhost, d.rebase p, h.does_nest hd, h.perform_nest hperform⟩, ?_⟩
  exact h.perform hperform

/-- Calls that get through by themselves get through inside another builder. -/
theorem runStrict_nest (h : Hosts host p c) (hhost : host.poisoned = false) {ops : List Op}
    (hrun : c.runStrict ops = .ok c') :
    (host.nest p c).runStrict (ops.map (Op.rebase p)) = .ok (host.nest p c') := by
  induction ops generalizing c with
  | nil =>
      cases hrun
      rfl
  | cons op ops ih =>
      obtain ⟨c₁, hop, hrest⟩ := runStrict_cons_eq_ok_iff.1 hrun
      obtain ⟨hnest, hc₁⟩ := h.run_nest hhost hop
      exact runStrict_cons_eq_ok_iff.2 ⟨_, hnest, ih hc₁ hrest⟩

end Hosts

def opened (b : Builder) (kind : Kind) (document : Json) (p : Path) : Builder :=
  { b with document, frames := ⟨kind, p⟩ :: b.frames }

variable {b : Builder} {kind : Kind} {document : Json}

theorem run_opening (hb : b.poisoned = false) (call : String) {slot : Slot}
    (hins : b.document.insertAt? b.current.path slot (.empty kind) = some (document, p)) :
    (Op.opening call kind slot).run b = ⟨b.opened kind document p, none⟩ := by
  refine Op.run_eq_ok_iff.2 ⟨hb, _, .opening call kind slot, ?_⟩
  exact perform?_write_eq_some_iff.2 ⟨document, p, hins, rfl⟩

variable {s : Segment}

theorem hosts_opened (h : b.Framed)
    (hput : b.document.putAt? b.current.path s (.empty kind) = some document) :
    Hosts (b.opened kind document (b.current.path.extend s)) (b.current.path.extend s)
      (new kind b.config) where
  isSome_at := by simp [opened, Json.at?_putAt?_self hput]
  head_frames := rfl
  path_prefix := by
    intro f hf
    rcases List.mem_cons.1 hf with rfl | hf
    · exact List.prefix_refl _
    · exact (h.path_prefix (List.mem_append_left _ hf)).trans (List.prefix_append _ _)
  config := rfl
  grouped := .empty

theorem nest_new (hput : b.document.putAt? b.current.path s (.empty kind) = some document) :
    (b.opened kind document (b.current.path.extend s)).nest (b.current.path.extend s)
      (new kind b.config) = b.opened kind document (b.current.path.extend s) := by
  have hreplace : document.replace (b.current.path.extend s) (.empty kind) = document :=
    Option.some.inj ((Json.putAt?_eq_replace hput _).symm.trans hput)
  simp [nest, opened, new, hreplace, Registry.mergeAt]

theorem exists_perform_write (h : b.Framed) {slot : Slot} (hslot : slot.kind = b.current.kind)
    (v : Json) (notes : List Note) (opens? : Option Kind) :
    ∃ b', b.perform? (.write slot v notes opens?) = some b' := by
  have hsome : (b.document.insertAt? b.current.path slot v).isSome := by
    rw [Json.insertAt?_isSome_iff, hslot]
    exact h.kindAt_current
  obtain ⟨⟨document, p⟩, hins⟩ := Option.isSome_iff_exists.1 hsome
  exact ⟨_, perform?_write_eq_some_iff.2 ⟨document, p, hins, rfl⟩⟩

/-- Calls that build a subtree from an empty root do, between a call that opens a
slot and one that closes it, what writing the subtree into the slot does. -/
theorem runStrict_inline (call call' : String) {slot : Slot} {expected? : Option Kind}
    {ops : List Op} {b' : Builder} (h : b.Framed) (hp : b.poisoned = false)
    (hk : ∀ k ∈ expected?, k = kind) (hrun : (new kind b.config).runStrict ops = .ok c)
    (hclosed : c.frames = [])
    (hwrite : b.perform? (.write slot c.document c.registry.notes none) = some b') :
    ∃ host : Builder, (Op.opening call kind slot).run b = ⟨host, none⟩ ∧
      host.runStrict (ops.map (Op.rebase host.current.path) ++ [.closing call' expected?]) =
        .ok b' := by
  obtain ⟨document', q, hins', rfl⟩ := perform?_write_eq_some_iff.1 hwrite
  have hslot : b.document.kindAt? b.current.path = some slot.kind :=
    Json.insertAt?_isSome_iff.1 (Option.isSome_iff_exists.2 ⟨_, hins'⟩)
  obtain ⟨⟨document, p⟩, hins⟩ := Option.isSome_iff_exists.1
    ((Json.insertAt?_isSome_iff (v := .empty kind)).2 hslot)
  obtain ⟨outer, s, hat, hstep, rfl, hput⟩ := Json.insertAt?_eq_some_iff.1 hins
  have hreplaced : b.document.insertAt? b.current.path slot c.document =
      some (document.replace (b.current.path.extend s) c.document, b.current.path.extend s) :=
    Json.insertAt?_eq_some_iff.2 ⟨outer, s, hat, hstep, rfl, Json.putAt?_eq_replace hput _⟩
  -- The slot was filled with an empty container, which the finished one takes the place of.
  obtain ⟨rfl, rfl⟩ := Prod.mk.inj (Option.some.inj (hins'.symm.trans hreplaced))
  have hinner := (hosts_opened h hput).runStrict_nest hp hrun
  rw [nest_new hput] at hinner
  refine ⟨b.opened kind document (b.current.path.extend s), run_opening hp call hins, ?_⟩
  refine runStrict_append_eq_ok_iff.2 ⟨_, hinner, runStrict_cons_eq_ok_iff.2 ⟨_, ?_, rfl⟩⟩
  refine Op.run_eq_ok_iff.2 ⟨hp, .close, .closing call' ?_, ?_⟩
  · simpa [current, nest, opened, hclosed] using hk
  · rw [← Registry.mergeAt_eq_pushAll]
    refine perform?_close_eq_some_iff.2 ⟨⟨kind, b.current.path.extend s⟩, b.frames, ?_, rfl⟩
    simp [nest, opened, hclosed]

/-- Building a container in place comes to the same as grafting it. Wherever a slot
fits, calls that build a subtree from an empty root get through behind an opening
of the slot, with the targets of their own grafts moved to where the container is;
and closing it then leads to the builder that grafting the subtree leads to. -/
theorem inline_eq_graft {slot : Slot} {ops : List Op} {t : Subtree} (call : String)
    (hb : b.Reachable) (hp : b.poisoned = false) (hslot : slot.kind = b.current.kind)
    (ht : build kind b.config ops = .ok t) :
    ∃ host b' : Builder,
      (Op.opening call kind slot).run b = ⟨host, none⟩ ∧
      host.runStrict (ops.map (Op.rebase host.current.path) ++ [.pop]) = .ok b' ∧
      (Op.graft slot t).run b = ⟨b', none⟩ := by
  have hframed : b.Framed := .of_reachable hb
  obtain ⟨c, hrun, hfinish⟩ := build_eq_ok_iff.1 ht
  obtain ⟨-, hclosed, rfl⟩ := finish_eq_ok_iff.1 hfinish
  obtain ⟨b', hwrite⟩ := exists_perform_write hframed hslot c.document c.registry.notes none
  obtain ⟨host, hopen, hinline⟩ :=
    runStrict_inline call "pop" hframed hp (by simp : ∀ k ∈ none, k = kind) hrun hclosed hwrite
  exact ⟨host, b', hopen, hinline, Op.run_eq_ok_iff.2 ⟨hp, _, .graft slot _, hwrite⟩⟩

/-- A builder with a rule whose path has the form of a path in a container that is
not there yet. -/
def foreshadowed : Builder := (new .object {}).after [.stringType (.key "a.x") none]

/-- Calls that put rules at two paths, and then another one at the first. -/
def returning : List Op :=
  [.integerType (.key "x") none, .stringType (.key "y") none,
    .graftAt [.key "x"] (.ofGenerated (.matched .null .exactType))]

def returned : Subtree :=
  ⟨((new .object {}).after returning).document, ((new .object {}).after returning).registry⟩

theorem inline_eq_graft_of_foreshadowed :
    foreshadowed.Reachable ∧ build .object foreshadowed.config returning = .ok returned ∧
    ∃ host b' : Builder,
      (Op.opening "push_object" .object (.key "a")).run foreshadowed = ⟨host, none⟩ ∧
      host.runStrict (returning.map (Op.rebase host.current.path) ++ [.pop]) = .ok b' ∧
      (Op.graft (.key "a") returned).run foreshadowed = ⟨b', none⟩ ∧
      b'.registry.paths = ["$.a.x", "$.a.y"] ∧
      b'.registry.get? "$.a.x" = some [.exactType, .number .integer, .exactType] := by
  have hb : foreshadowed.Reachable := ⟨.object, {}, _, rfl⟩
  have ht : build .object foreshadowed.config returning = .ok returned := rfl
  obtain ⟨host, b', hopen, hinline, hgraft⟩ :=
    inline_eq_graft "push_object" hb rfl (rfl : (Slot.key "a").kind = .object) ht
  have hb' : b' = ((Op.graft (.key "a") returned).run foreshadowed).builder := by rw [hgraft]
  exact ⟨hb, ht, host, b', hopen, hinline, hgraft, by rw [hb']; rfl, by rw [hb']; rfl⟩

end Builder

end Exemplar
