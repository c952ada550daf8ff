import Exemplar.Proofs.Builder.Deed

/-!
# Runs

`b.after ops` is the builder after the calls `ops`, whatever comes of each of
them, and the builders that can be reached are those that come from a new one in
this way. What is true of them is shown by one step: a call has done a deed, or
it has changed nothing but perhaps the mark that the builder has failed.

The values that are handed to a call are made before it. If one of them cannot be
made, which `argumentFailure?` tells, the builder never hears of the call.
-/

namespace Exemplar

open Builder Builder.Move

def Op.argumentFailure? (config : Config) : Op → Option Failure
  | .add _ g => (Element.value g).failure? config
  | .arrayLike _ _ element => element.failure? config
  | _ => none

namespace Op

variable {b b' : Builder} {op : Op}

theorem run_of_argumentFailure {f : Failure} (h : op.argumentFailure? b.config = some f) :
    op.run b = ⟨b, some f⟩ := by
  cases op with
  | add slot g =>
      rw [argumentFailure?, Element.failure?] at h
      rw [run]
      cases hg : g.make b.config with
      | error e => simpa [hg] using h
      | ok v => simp [hg] at h
  | arrayLike slot c element =>
      rw [argumentFailure?] at h
      rw [run, h]
  | opening | closing | put | putNamed | eachKey | graft | graftAt => cases h

theorem argumentFailure?_of_run (h : op.run b = ⟨b', none⟩) :
    op.argumentFailure? b.config = none := by
  cases hargs : op.argumentFailure? b.config with
  | none => rfl
  | some f =>
      rw [run_of_argumentFailure hargs] at h
      cases h

/-- A call that is made is a call of an atomic move, unless the calendar does not
have what it is to show. -/
theorem run_eq_guard (h : op.argumentFailure? b.config = none) :
    (∃ move : Move Unit, move.Atomic ∧ op.run b = b.guard move) ∨
      op.run b = ⟨b, some .outOfCalendar⟩ := by
  have hemit : ∀ call slot made, (∃ move : Move Unit, move.Atomic ∧
      b.emit call slot made = b.guard move) ∨ b.emit call slot made = ⟨b, some .outOfCalendar⟩ := by
    intro call slot made
    match made with
    | .ok v => exact .inl ⟨_, atomic_putGenerated call slot v, rfl⟩
    | .error (.refused e) => exact .inl ⟨_, atomic_refuse e, rfl⟩
    | .error .outOfCalendar => exact .inr rfl
  cases op with
  | opening call kind slot => exact .inl ⟨_, atomic_openContainer call kind slot, rfl⟩
  | closing call expected? => exact .inl ⟨_, atomic_closeContainer call expected?, rfl⟩
  | put call slot g => exact hemit call slot (g.make b.config)
  | putNamed call name g => exact hemit call (b.defaultSlot name) (g.make b.config)
  | add slot g =>
      rw [run]
      cases hg : g.make b.config with
      | error f => simp [argumentFailure?, Element.failure?, hg] at h
      | ok v => exact hemit "add" slot (.ok v)
  | eachKey rules example? => exact .inl ⟨_, atomic_eachKey rules example?, rfl⟩
  | arrayLike slot c element =>
      rw [argumentFailure?] at h
      rw [run, h]
      refine .inl ⟨_, ?_, rfl⟩
      refine Atomic.bind_of_still (atomic_obtained _) (still_obtained _) fun _ => ?_
      refine Atomic.bind_of_still (atomic_obtained _) (still_obtained _) fun s => ?_
      exact atomic_placeArray slot c s
  | graft slot s => exact .inl ⟨_, atomic_graft slot s, rfl⟩
  | graftAt target s => exact .inl ⟨_, atomic_graftAt target s, rfl⟩

theorem run_refused {e : BuildError} (hargs : op.argumentFailure? b.config = none)
    (h : (op.run b).failure? = some (.refused e)) :
    (op.run b).builder = { b with poisoned := true } := by
  rcases run_eq_guard hargs with ⟨move, hm, hrun⟩ | hrun
  · rw [hrun] at h ⊢
    exact guard_refused hm h
  · simp [hrun] at h

theorem run_outOfCalendar (h : (op.run b).failure? = some .outOfCalendar) :
    (op.run b).builder = b := by
  cases hargs : op.argumentFailure? b.config with
  | some f => rw [run_of_argumentFailure hargs]
  | none =>
      rcases run_eq_guard hargs with ⟨move, hm, hrun⟩ | hrun
      · rw [hrun] at h ⊢
        exact guard_outOfCalendar hm h
      · rw [hrun]

theorem run_of_poisoned (hargs : op.argumentFailure? b.config = none) (h : b.poisoned = true) :
    op.run b = ⟨b, some (.refused .poisoned)⟩ ∨ op.run b = ⟨b, some .outOfCalendar⟩ := by
  rcases run_eq_guard hargs with ⟨move, -, hrun⟩ | hrun
  · exact .inl (hrun.trans (guard_of_poisoned move h))
  · exact .inr hrun

/-- A call that fails changes nothing but perhaps the mark. -/
theorem run_builder_of_failure {f : Failure} (h : (op.run b).failure? = some f) :
    (op.run b).builder = b ∨ (op.run b).builder = { b with poisoned := true } := by
  cases hargs : op.argumentFailure? b.config with
  | some g => exact .inl (by rw [run_of_argumentFailure hargs])
  | none =>
      cases f with
      | refused e => exact .inr (run_refused hargs h)
      | outOfCalendar => exact .inl (run_outOfCalendar h)

/-- A call that succeeds does a deed. -/
theorem exists_deed (h : (op.run b).failure? = none) :
    ∃ d, op.Does b d ∧ b.perform? d = some (op.run b).builder := by
  have hrun : op.run b = ⟨(op.run b).builder, none⟩ := by rw [← h]
  exact (run_eq_ok_iff.1 hrun).2

/-- Whatever comes of a call, it has done a deed or changed nothing but the mark. -/
theorem run_builder_cases (b : Builder) (op : Op) :
    (∃ d, op.Does b d ∧ b.perform? d = some (op.run b).builder) ∨
      (op.run b).builder = b ∨ (op.run b).builder = { b with poisoned := true } := by
  cases hf : (op.run b).failure? with
  | none => exact .inl (exists_deed hf)
  | some f => exact .inr (run_builder_of_failure hf)

end Op

namespace Builder

def after (b : Builder) (ops : List Op) : Builder :=
  ops.foldl (fun b op => (op.run b).builder) b

@[simp] theorem after_nil (b : Builder) : b.after [] = b := rfl

@[simp] theorem after_cons (b : Builder) (op : Op) (ops : List Op) :
    b.after (op :: ops) = (op.run b).builder.after ops := rfl

theorem after_append (b : Builder) (ops ops' : List Op) :
    b.after (ops ++ ops') = (b.after ops).after ops' := List.foldl_append

/-- What every call keeps is kept by all calls. -/
theorem after_induction {P : Builder → Prop} {b : Builder} (h : P b)
    (hstep : ∀ b (op : Op), P b → P (op.run b).builder) (ops : List Op) : P (b.after ops) := by
  induction ops generalizing b with
  | nil => exact h
  | cons op ops ih => exact ih (hstep b op h)

/-- The builder comes from a new one by calls. -/
def Reachable (b : Builder) : Prop :=
  ∃ kind config ops, b = (new kind config).after ops

theorem Reachable.induction {P : Builder → Prop} (hnew : ∀ kind config, P (new kind config))
    (hstep : ∀ b (op : Op), P b → P (op.run b).builder) {b : Builder} (h : b.Reachable) : P b := by
  obtain ⟨kind, config, ops, rfl⟩ := h
  exact after_induction (hnew kind config) hstep ops

end Builder

namespace Op

theorem eq_after_of_runTemplate {lenient : Bool} {b b' : Builder} {ops : List Op}
    (h : runTemplate lenient b ops = .ok b') : b' = b.after ops := by
  induction ops generalizing b with
  | nil =>
      rw [runTemplate] at h
      exact (Except.ok.inj h).symm
  | cons op ops ih =>
      rw [runTemplate] at h
      rw [after_cons]
      cases hf : (op.run b).failure? with
      | none => exact ih (by simpa [hf] using h)
      | some f =>
          cases f with
          | outOfCalendar => simp [hf] at h
          | refused e =>
              cases lenient with
              | true => exact ih (by simpa [hf] using h)
              | false => simp [hf] at h

end Op

namespace Builder

variable {b b' : Builder}

theorem runStrict_nil (b : Builder) : b.runStrict [] = .ok b := rfl

theorem runStrict_cons_eq_ok_iff {op : Op} {ops : List Op} :
    b.runStrict (op :: ops) = .ok b' ↔
      ∃ b₁, op.run b = ⟨b₁, none⟩ ∧ b₁.runStrict ops = .ok b' := by
  rw [runStrict, Op.runTemplate]
  cases hrun : op.run b with
  | mk b₁ failure? =>
      cases failure? with
      | none => simp [runStrict]
      | some f => cases f <;> simp

theorem runStrict_append_eq_ok_iff {ops ops' : List Op} :
    b.runStrict (ops ++ ops') = .ok b' ↔
      ∃ b₁, b.runStrict ops = .ok b₁ ∧ b₁.runStrict ops' = .ok b' := by
  induction ops generalizing b with
  | nil => simp [runStrict_nil]
  | cons op ops ih =>
      rw [List.cons_append]
      simp only [runStrict_cons_eq_ok_iff, ih]
      constructor
      · rintro ⟨b₁, hop, b₂, hops, hrest⟩
        exact ⟨b₂, ⟨b₁, hop, hops⟩, hrest⟩
      · rintro ⟨b₂, ⟨b₁, hop, hops⟩, hrest⟩
        exact ⟨b₁, hop, b₂, hops, hrest⟩

theorem poisoned_of_runStrict {ops : List Op} (h : b.runStrict ops = .ok b') :
    b'.poisoned = b.poisoned := by
  induction ops generalizing b with
  | nil =>
      cases h
      rfl
  | cons op ops ih =>
      obtain ⟨b₁, hop, hrest⟩ := runStrict_cons_eq_ok_iff.1 h
      obtain ⟨-, d, -, hd⟩ := Op.run_eq_ok_iff.1 hop
      rw [ih hrest, (config_of_perform hd).2.2]

theorem finish_eq_ok_iff {s : Subtree} :
    b.finish = .ok s ↔ b.poisoned = false ∧ b.frames = [] ∧ s = ⟨b.document, b.registry⟩ := by
  rw [finish]
  cases b.poisoned <;> cases b.frames <;> simp [eq_comm]

end Builder

theorem Element.realize_template_eq_ok_iff {config : Config} {kind : Kind} {calls : List Op}
    {lenient : Bool} {s : Subtree} :
    (Element.template kind calls lenient).realize config = .ok s ↔
      ∃ c, Op.runTemplate lenient (new kind config) calls = .ok c ∧ c.finish = .ok s := by
  rw [Element.realize]
  cases Op.runTemplate lenient (new kind config) calls <;> simp [Generator.orRefuse_eq_ok_iff]

theorem Builder.build_eq_ok_iff {kind : Kind} {config : Config} {ops : List Op} {s : Subtree} :
    build kind config ops = .ok s ↔
      ∃ c, (new kind config).runStrict ops = .ok c ∧ c.finish = .ok s :=
  Element.realize_template_eq_ok_iff

theorem Element.finish_of_realize {config : Config} {kind : Kind} {calls : List Op}
    {lenient : Bool} {s : Subtree}
    (h : (Element.template kind calls lenient).realize config = .ok s) :
    ((new kind config).after calls).finish = .ok s := by
  obtain ⟨c, hrun, hfinish⟩ := Element.realize_template_eq_ok_iff.1 h
  rwa [← Op.eq_after_of_runTemplate hrun]

end Exemplar
