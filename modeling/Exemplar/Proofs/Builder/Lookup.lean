import Exemplar.Builder.Call
import Exemplar.Proofs.Builder.Frames
import Exemplar.Proofs.Generator.Refusal

/-!
# The current container is always found

A call that puts something into the current container looks it up from the root,
and has a refusal for the case that it is not there. As all open containers are
in the document, that refusal never comes about. A call may also be refused for
what the calls of a template are refused for, so this is shown along the
recursion of calls and templates: a template begins with a new builder, which is
framed, and what an element is made of does not know of containers.
-/

namespace Exemplar

open Builder Builder.Move

/-- An open container was looked up and was not there. -/
def Failure.LostContainer (f : Failure) : Prop :=
  ∃ p, f = .refused (.graftTarget p .containerReplaced)

namespace Generator

theorem not_lostContainer_of_make {config : Config} {g : Generator} {f : Failure}
    (h : g.make config = .error f) : ¬ f.LostContainer := by
  rintro ⟨p, rfl⟩
  exact family_of_make h rfl

end Generator

theorem Element.not_lostContainer_of_failure? {config : Config} {element : Element} {f : Failure}
    (h : element.failure? config = some f) : ¬ f.LostContainer := by
  cases element with
  | value g =>
      rw [Element.failure?] at h
      cases hg : g.make config with
      | ok v => simp [hg] at h
      | error e =>
          obtain rfl : e = f := by simpa [hg] using h
          exact Generator.not_lostContainer_of_make hg
  | subtree s => cases h
  | template kind calls lenient => cases h

theorem Cardinality.not_lostContainer_of_check {c : Cardinality} {f : Failure}
    (h : Generator.orRefuse c.check = .error f) : ¬ f.LostContainer := by
  rintro ⟨p, rfl⟩
  rw [Cardinality.check] at h
  split at h
  · split at h <;> cases h
  · cases h

namespace Json

theorem putChild_ne_containerReplaced (c : Json) (s : Segment) (v : Json) :
    c.putChild s v ≠ .error .containerReplaced := by
  cases c <;> cases s <;> simp [putChild]
  case arr.index items i =>
    split
    · simp
    · split <;> simp

end Json

namespace Builder

variable {b : Builder}

theorem documentWith_ne_containerReplaced (b : Builder) (target : Path) (v : Json) :
    b.documentWith target v ≠ .error .containerReplaced := by
  rw [documentWith]
  cases target.getLast? with
  | none => simp
  | some s =>
      dsimp only
      split
      · simp
      · cases b.document.at? target.dropLast with
        | none => simp
        | some c =>
            dsimp only
            cases hput : c.putChild s v with
            | ok c' => simp
            | error fault =>
                rintro h
                cases h
                exact Json.putChild_ne_containerReplaced c s v hput

theorem not_lostContainer_of_finish {f : Failure}
    (h : Generator.orRefuse b.finish = .error f) : ¬ f.LostContainer := by
  rintro ⟨p, rfl⟩
  rw [finish] at h
  split at h
  · cases h
  · split at h <;> cases h

/-- A move that does not fail in this state because an open container is not there. -/
def Move.Finds {α : Type} (m : Move α) (b : Builder) : Prop :=
  ∀ f b', m b = .error f b' → ¬ f.LostContainer

namespace Move.Finds

variable {α β : Type}

theorem bind {m : Move α} {k : α → Move β} (hm : m.Finds b)
    (hk : ∀ a b', m b = .ok a b' → (k a).Finds b') : (m >>= k).Finds b := by
  intro f b' h
  rcases bind_eq_error_iff.1 h with h | ⟨a, b₁, ha, h⟩
  · exact hm f b' h
  · exact hk a b₁ ha f b' h

theorem bind_sure {m : Move α} {k : α → Move β} (hm : m.Finds b) (hk : ∀ a, (k a).Sure) :
    (m >>= k).Finds b :=
  hm.bind fun a b' _ f b'' h => absurd h (hk a b' f b'')

theorem obtained {r : Except Failure α} (h : ∀ f, r = .error f → ¬ f.LostContainer) :
    (obtained r).Finds b := by
  intro f b' hr
  cases r with
  | ok a => cases hr
  | error e =>
      cases hr
      exact h f rfl

theorem guard {m : Move Unit} (hm : m.Finds b) {f : Failure}
    (h : (b.guard m).failure? = some f) : ¬ f.LostContainer := by
  rw [Builder.guard] at h
  split at h
  · cases h
    rintro ⟨p, hp⟩
    cases hp
  · cases hmove : m b with
    | ok a b' => simp [hmove] at h
    | error e b' =>
        obtain rfl : e = f := by cases e <;> simpa [hmove] using h
        exact hm e b' hmove

end Move.Finds

namespace Framed

/-- A value fails to be placed only because its slot is one of another kind of container. -/
theorem place_error (h : b.Framed) {call : String} {slot : Slot} {v : Json} {f : Failure}
    {b' : Builder} (hf : place call slot v b = .error f b') :
    f = .refused (b.mismatch call slot.kind) := by
  obtain ⟨c, hc, -⟩ := h.exists_current
  rw [place_apply, hc] at hf
  dsimp only at hf
  cases hins : b.document.insertAt? b.current.path slot v with
  | none =>
      rw [hins] at hf
      cases hf
      rfl
  | some r =>
      rw [hins] at hf
      cases hf

theorem finds_place (h : b.Framed) (call : String) (slot : Slot) (v : Json) :
    (place call slot v).Finds b := by
  intro f b' hf
  rw [h.place_error hf]
  rintro ⟨p, hp⟩
  cases hp

theorem finds_putGenerated (h : b.Framed) (call : String) (slot : Slot) (g : Generated) :
    (putGenerated call slot g).Finds b := by
  refine (h.finds_place call slot g.value).bind_sure fun p => ?_
  split
  · exact sure_note _
  · exact sure_pure _

theorem finds_placeArray (h : b.Framed) (slot : Slot) (c : Cardinality) (s : Subtree) :
    (placeArray slot c s).Finds b := by
  refine (Finds.bind (m := get) (fun _ _ => nofun) ?_)
  rintro _ _ ⟨⟩
  exact (h.finds_place _ _ _).bind_sure fun _ => (sure_note _).bind fun _ => sure_note _

end Framed

theorem finds_closeContainer (b : Builder) (call : String) (expected? : Option Kind) :
    (closeContainer call expected?).Finds b := by
  rintro f b' h ⟨p, rfl⟩
  rw [closeContainer_apply] at h
  split at h
  · cases h
  · split at h <;> cases h

theorem finds_eachKey (b : Builder) (rules : List Rule) (example? : Option String) :
    (eachKey rules example?).Finds b := by
  rintro f b' h ⟨p, rfl⟩
  rw [eachKey_apply] at h
  split at h <;> cases h

theorem finds_graftAt (b : Builder) (target : Path) (s : Subtree) :
    (graftAt target s).Finds b := by
  rintro f b' h ⟨p, rfl⟩
  rw [graftAt_apply] at h
  split at h
  · next fault hfault =>
      cases h
      exact documentWith_ne_containerReplaced b target s.document hfault
  · cases h

theorem Framed.not_lostContainer_of_emit (h : b.Framed) {call : String} {slot : Slot}
    {made : Except Failure Generated} (hmade : ∀ f, made = .error f → ¬ f.LostContainer)
    {f : Failure} (hf : (b.emit call slot made).failure? = some f) : ¬ f.LostContainer := by
  match made with
  | .ok g => exact (h.finds_putGenerated call slot g).guard hf
  | .error .outOfCalendar =>
      cases hf
      exact hmade _ rfl
  | .error (.refused e) =>
      refine Finds.guard (m := refuse e) ?_ hf
      rintro _ _ ⟨⟩
      exact hmade _ rfl

end Builder

mutual

/-- No call fails because an open container is not there. -/
theorem Op.not_lostContainer {b : Builder} (h : b.Framed) {f : Failure} :
    (op : Op) → (op.run b).failure? = some f → ¬ f.LostContainer
  | .opening call kind slot, hf =>
      ((h.finds_place call slot (.empty kind)).bind_sure fun _ => sure_modify _).guard hf
  | .closing call expected?, hf => (finds_closeContainer b call expected?).guard hf
  | .put .., hf => h.not_lostContainer_of_emit (fun _ => Generator.not_lostContainer_of_make) hf
  | .putNamed .., hf =>
      h.not_lostContainer_of_emit (fun _ => Generator.not_lostContainer_of_make) hf
  | .add slot g, hf => by
      rw [Op.run] at hf
      cases hg : g.make b.config with
      | error e =>
          rw [hg] at hf
          cases hf
          exact Generator.not_lostContainer_of_make hg
      | ok v =>
          rw [hg] at hf
          exact h.not_lostContainer_of_emit (fun f (he : Except.ok v = .error f) => nomatch he) hf
  | .eachKey rules example?, hf => (finds_eachKey b rules example?).guard hf
  | .arrayLike slot c element, hf => by
      cases hargs : element.failure? b.config with
      | some e =>
          rw [Op.run, hargs] at hf
          cases hf
          exact Element.not_lostContainer_of_failure? hargs
      | none =>
          rw [Op.run, hargs] at hf
          refine Finds.guard (Finds.bind (.obtained ?_) ?_) hf
          · exact fun _ => Cardinality.not_lostContainer_of_check
          · intro _ b₁ h₁
            obtain ⟨-, rfl⟩ := obtained_eq_ok_iff.1 h₁
            refine Finds.bind (.obtained fun _ => element.not_lostContainer) ?_
            intro s b₂ h₂
            obtain ⟨-, rfl⟩ := obtained_eq_ok_iff.1 h₂
            -- Neither check has changed the builder, so its containers are still in place.
            exact h.finds_placeArray slot c s
  | .graft slot s, hf =>
      ((h.finds_place "graft" slot s.document).bind_sure fun _ => sure_note _).guard hf
  | .graftAt target s, hf => (finds_graftAt b target s).guard hf

theorem Element.not_lostContainer {config : Config} {f : Failure} :
    (element : Element) → element.realize config = .error f → ¬ f.LostContainer
  | .value g, hf => by
      rw [Element.realize] at hf
      cases hg : g.make config with
      | ok v => simp [hg, Except.map] at hf
      | error e =>
          rw [hg] at hf
          cases hf
          exact Generator.not_lostContainer_of_make hg
  | .subtree s, hf => by cases hf
  | .template kind calls lenient, hf => by
      rw [Element.realize] at hf
      cases hrun : Op.runTemplate lenient (new kind config) calls with
      | error e =>
          rw [hrun] at hf
          cases hf
          exact Op.not_lostContainer_of_runTemplate (.new kind config) calls hrun
      | ok b =>
          rw [hrun] at hf
          exact not_lostContainer_of_finish hf

theorem Op.not_lostContainer_of_runTemplate {b : Builder} (h : b.Framed) {lenient : Bool}
    {f : Failure} :
    (ops : List Op) → Op.runTemplate lenient b ops = .error f → ¬ f.LostContainer
  | [], hf => by cases hf
  | op :: ops, hf => by
      rw [Op.runTemplate] at hf
      have hnext := h.run op
      cases hop : (op.run b).failure? with
      | none => exact Op.not_lostContainer_of_runTemplate hnext ops (by simpa [hop] using hf)
      | some e =>
          have he := Op.not_lostContainer h op hop
          cases e with
          | outOfCalendar =>
              obtain rfl : Failure.outOfCalendar = f := by simpa [hop] using hf
              exact he
          | refused e =>
              cases lenient with
              | true =>
                  exact Op.not_lostContainer_of_runTemplate hnext ops (by simpa [hop] using hf)
              | false =>
                  obtain rfl : Failure.refused e = f := by simpa [hop] using hf
                  exact he

end

/-- In every state that calls lead to, whatever has come of them, the containers
that are open are in the document where they are said to be: the root has its kind,
each of the others is a container of its kind at its path, one step inside the one
around it, and no path has a wildcard. So the current container is found and has
the kind that is told of it, and no call is refused because it is not. -/
theorem open_containers_in_place {b : Builder} (h : b.Reachable) :
    b.document.kind? = some b.rootKind ∧
    (∀ f ∈ b.frames, b.document.kindAt? f.path = some f.kind ∧ .wildcard ∉ f.path) ∧
    (b.openFrames.IsChain fun inner outer =>
      ∃ s, inner.path = outer.path.extend s ∧ outer.Has b.document s) ∧
    (∃ c, b.document.at? b.current.path = some c ∧ c.kind? = some b.current.kind) ∧
    ∀ (op : Op) (p : Path),
      (op.run b).failure? ≠ some (.refused (.graftTarget p .containerReplaced)) := by
  have hb : b.Framed := .of_reachable h
  refine ⟨?_, ?_, hb.nested, hb.exists_current, ?_⟩
  · simpa [rootFrame, Path.root, Json.kindAt?_nil] using hb.kindAt _ b.rootFrame_mem_openFrames
  · intro f hf
    have hkind := hb.kindAt f (List.mem_append_left _ hf)
    exact ⟨hkind, Json.wildcard_notMem (Json.isSome_at?_of_kindAt? hkind)⟩
  · intro op p hop
    exact op.not_lostContainer hb hop ⟨p, rfl⟩

/-- Calls that open two containers, put things beside them and then try to put
something in the place of the outer one. -/
def intrusion : List Op :=
  [.pushObject (.key "a"), .pushArray (.key "b"), .value .next .null,
    .graftAt [.key "c"] ⟨.null, {}⟩, .graftAt [.key "a", .key "d"] ⟨.null, {}⟩,
    .graftAt [.key "a"] ⟨.null, {}⟩]

theorem open_containers_in_place_after_intrusion :
    ((new .object {}).after intrusion).Reachable ∧
    ((new .object {}).after intrusion).poisoned = true ∧
    ((new .object {}).after intrusion).frames =
      [⟨.array, [.key "a", .key "b"]⟩, ⟨.object, [.key "a"]⟩] ∧
    ∃ c, ((new .object {}).after intrusion).document.at? [.key "a", .key "b"] = some c ∧
      c.kind? = some .array := by
  have hr : ((new .object {}).after intrusion).Reachable := ⟨.object, {}, intrusion, rfl⟩
  exact ⟨hr, rfl, rfl, (open_containers_in_place hr).2.2.2.1⟩

end Exemplar
