import Exemplar.Proofs.Builder.Run
import Mathlib.Data.List.Chain

/-!
# The open containers are there

An open container is known by its path alone, and whatever is put into the
document could put something else in its place. That this does not happen is the
invariant `Framed`: at the path of every open container there is a container of
its kind, and each path is one step longer than that of the container around it.
Every path of an open container then begins the path of the innermost one, so
nothing that is put below the innermost container can be in the way of another;
and what is put at a path by `documentWith` is not on the way to any of them.

How the step from one container to the next looks need not be part of the
invariant. It follows from there being a node behind it.
-/

namespace Exemplar

open Builder

namespace Json

theorem wildcard_notMem {j : Json} {p : Path} (h : (j.at? p).isSome) : .wildcard ∉ p := by
  induction p generalizing j with
  | nil => simp
  | cons s p ih =>
      rw [at?_cons] at h
      cases hc : j.child? s with
      | none => simp [hc] at h
      | some c =>
          rw [hc, Option.bind_some] at h
          have hs : s ≠ .wildcard := by
            rintro rfl
            rw [child?_wildcard] at hc
            cases hc
          rw [List.mem_cons, not_or]
          exact ⟨hs.symm, ih h⟩

end Json

/-- A step that leads from an open container to a node of the document: a key of
an object, or a position of an array that is in use. -/
def Frame.Has (document : Json) (outer : Frame) : Segment → Prop
  | .key _ => outer.kind = .object
  | .index i =>
    outer.kind = .array ∧ ∃ items, document.at? outer.path = some (.arr items) ∧ i < items.length
  | .wildcard => False

namespace Builder

/-- The open containers with the root, innermost first. -/
def openFrames (b : Builder) : List Frame := b.frames ++ [b.rootFrame]

/-- The open containers are in the document, one inside the other. -/
structure Framed (b : Builder) : Prop where
  kindAt : ∀ f ∈ b.openFrames, b.document.kindAt? f.path = some f.kind
  chain : b.openFrames.IsChain fun inner outer => ∃ s, inner.path = outer.path.extend s

variable {b b' : Builder}

theorem exists_openFrames_eq (b : Builder) : ∃ rest, b.openFrames = b.current :: rest := by
  rw [openFrames, current]
  cases b.frames with
  | nil => exact ⟨[], rfl⟩
  | cons f fs => exact ⟨fs ++ [b.rootFrame], rfl⟩

theorem current_mem_openFrames (b : Builder) : b.current ∈ b.openFrames := by
  obtain ⟨rest, h⟩ := b.exists_openFrames_eq
  simp [h]

theorem rootFrame_mem_openFrames (b : Builder) : b.rootFrame ∈ b.openFrames := by
  simp [openFrames]

theorem path_prefix_of_isChain {f : Frame} {fs : List Frame}
    (h : (f :: fs).IsChain fun inner outer => ∃ s, inner.path = outer.path.extend s) :
    ∀ g ∈ f :: fs, g.path <+: f.path := by
  induction fs generalizing f with
  | nil => simp
  | cons f' fs ih =>
      obtain ⟨⟨s, hs⟩, htail⟩ := List.isChain_cons_cons.1 h
      intro g hg
      rcases List.mem_cons.1 hg with rfl | hg
      · exact List.prefix_refl _
      · exact (ih htail g hg).trans ⟨[s], hs.symm⟩

namespace Framed

theorem path_prefix (h : b.Framed) {f : Frame} (hf : f ∈ b.openFrames) :
    f.path <+: b.current.path := by
  obtain ⟨rest, hrest⟩ := b.exists_openFrames_eq
  have hchain := h.chain
  rw [hrest] at hchain hf
  exact path_prefix_of_isChain hchain f hf

/-- No open container is at or behind a step from the innermost one. -/
theorem not_extend_prefix (h : b.Framed) {f : Frame} (hf : f ∈ b.openFrames) (s : Segment) :
    ¬ b.current.path.extend s <+: f.path := by
  intro hs
  have hlen := (hs.trans (h.path_prefix hf)).length_le
  rw [Path.extend, List.length_append] at hlen
  exact absurd hlen (Nat.not_succ_le_self _)

theorem kindAt_current (h : b.Framed) : b.document.kindAt? b.current.path = some b.current.kind :=
  h.kindAt _ b.current_mem_openFrames

theorem exists_current (h : b.Framed) :
    ∃ c, b.document.at? b.current.path = some c ∧ c.kind? = some b.current.kind :=
  Option.bind_eq_some_iff.1 h.kindAt_current

theorem new (kind : Kind) (config : Config) : (Builder.new kind config).Framed where
  kindAt := by
    intro f hf
    obtain rfl : f = ⟨kind, []⟩ := by simpa [openFrames, Builder.new, rootFrame, Path.root] using hf
    exact Json.kind?_empty kind
  chain := by simp [openFrames, Builder.new]

/-- An update that is not on the way to any open container keeps them all. -/
theorem kindAt_putAt (h : b.Framed) {p : Path} {s : Segment} {v document : Json}
    (hput : b.document.putAt? p s v = some document)
    (hfree : ∀ f ∈ b.openFrames, ¬ p.extend s <+: f.path) :
    ∀ f ∈ b.openFrames, document.kindAt? f.path = some f.kind := by
  intro f hf
  rw [Json.kindAt?_putAt? hput (hfree f hf)]
  exact h.kindAt f hf

theorem not_prefix_of_frames {p : Path} {s : Segment}
    (hfree : ∀ f ∈ b.frames, ¬ p.extend s <+: f.path) :
    ∀ f ∈ b.openFrames, ¬ p.extend s <+: f.path := by
  intro f hf
  rcases List.mem_append.1 hf with hf | hf
  · exact hfree f hf
  · obtain rfl := List.mem_singleton.1 hf
    simp [rootFrame, Path.root, Path.extend]

/-- What a deed does leaves all open containers where they are. -/
theorem perform (h : b.Framed) {d : Deed} (hb : b.perform? d = some b')
    (hopens : ∀ slot v notes k, d = .write slot v notes (some k) → v.kind? = some k) :
    b'.Framed := by
  cases d with
  | write slot v notes opens? =>
      obtain ⟨document, p, hins, rfl⟩ := perform?_write_eq_some_iff.1 hb
      obtain ⟨c, s, -, -, rfl, hput⟩ := Json.insertAt?_eq_some_iff.1 hins
      have hkinds := h.kindAt_putAt hput fun f hf => h.not_extend_prefix hf s
      cases opens? with
      | none => exact ⟨hkinds, h.chain⟩
      | some k =>
          have hk : v.kind? = some k := hopens slot v notes k rfl
          obtain ⟨rest, hrest⟩ := b.exists_openFrames_eq
          refine ⟨?_, ?_⟩
          · intro f hf
            rcases List.mem_cons.1 hf with rfl | hf
            · exact (Json.kindAt?_putAt?_self hput).trans hk
            · exact hkinds f hf
          · change List.IsChain _ (⟨k, b.current.path.extend s⟩ :: b.openFrames)
            have hchain := h.chain
            rw [hrest] at hchain ⊢
            exact List.isChain_cons_cons.2 ⟨⟨s, rfl⟩, hchain⟩
  | close =>
      obtain ⟨f, fs, hf, rfl⟩ := perform?_close_eq_some_iff.1 hb
      have hopen : b.openFrames = f :: (fs ++ [b.rootFrame]) := by simp [openFrames, hf]
      have hchain := h.chain
      have hkind := h.kindAt
      rw [hopen] at hchain hkind
      exact ⟨fun g hg => hkind g (List.mem_cons_of_mem f hg), hchain.tail⟩
  | note notes =>
      cases hb
      exact ⟨h.kindAt, h.chain⟩
  | writeAt target v notes =>
      obtain ⟨document, hwith, rfl⟩ := perform?_writeAt_eq_some_iff.1 hb
      obtain ⟨p, s, rfl, hfree, hput⟩ := documentWith_eq_ok_iff.1 hwith
      exact ⟨h.kindAt_putAt hput (not_prefix_of_frames hfree), h.chain⟩

/-- A call, whatever comes of it, leaves all open containers where they are. -/
theorem run (h : b.Framed) (op : Op) : (op.run b).builder.Framed := by
  rcases Op.run_builder_cases b op with ⟨d, hd, hb⟩ | hb | hb
  · refine h.perform hb ?_
    rintro slot v notes k rfl
    cases hd
    exact Json.kind?_empty k
  · rw [hb]
    exact h
  · rw [hb]
    exact ⟨h.kindAt, h.chain⟩

theorem after (h : b.Framed) (ops : List Op) : (b.after ops).Framed :=
  after_induction h (fun _ op hb => hb.run op) ops

theorem of_reachable (h : b.Reachable) : b.Framed :=
  h.induction .new fun _ op hb => hb.run op

/-- Between two containers, one directly inside the other, lies a step that the
outer one has. -/
theorem exists_step (h : b.Framed) {inner outer : Frame} (hi : inner ∈ b.openFrames)
    (ho : outer ∈ b.openFrames) (hs : ∃ s, inner.path = outer.path.extend s) :
    ∃ s, inner.path = outer.path.extend s ∧ outer.Has b.document s := by
  obtain ⟨s, hs⟩ := hs
  refine ⟨s, hs, ?_⟩
  have hinner := h.kindAt inner hi
  obtain ⟨c, hc, hk⟩ := Option.bind_eq_some_iff.1 (h.kindAt outer ho)
  rw [hs, Path.extend, Json.kindAt?_append, hc, Option.bind_some, Json.kindAt?_cons] at hinner
  cases c <;> cases s <;> simp [Json.child?] at hinner
  case obj.key fields name =>
    simpa [Frame.Has, Json.kind?, eq_comm] using hk
  case arr.index items i =>
    have hi : i < items.length := by
      by_contra hge
      simp [List.getElem?_eq_none (Nat.le_of_not_lt hge)] at hinner
    refine ⟨?_, items, hc, hi⟩
    simpa [Json.kind?, eq_comm] using hk

theorem nested (h : b.Framed) :
    b.openFrames.IsChain fun inner outer =>
      ∃ s, inner.path = outer.path.extend s ∧ outer.Has b.document s :=
  h.chain.imp_of_mem_imp fun _ _ hi ho hs => h.exists_step hi ho hs

end Framed

end Builder

end Exemplar
