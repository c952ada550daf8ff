import Exemplar.Builder.Call
import Exemplar.Proofs.Builder.Run

/-!
# Refusals are atomic and final

A refusal leaves the builder as it was, with the mark that it has failed. From
then on no call gets through: it is refused as well, or it asks the calendar for
a day that there is not, and the builder stays the same to everyone who reads it.

This holds at any depth. A template whose calls do not end in a finished builder
does not make an element, even if it goes on behind a refusal as if nothing had
been, because the mark of its own builder is found when it is finished.
-/

namespace Exemplar

open Builder

namespace Builder

/-- What can be read off a builder is the same for two builders. -/
structure ReadsAs (b b' : Builder) : Prop where
  document : b.document = b'.document
  registry : b.registry = b'.registry
  depth : b.depth = b'.depth
  current : b.current = b'.current

theorem ReadsAs.poison (b : Builder) : ReadsAs { b with poisoned := true } b :=
  ⟨rfl, rfl, rfl, rfl⟩

theorem finish_of_poisoned {b : Builder} (h : b.poisoned = true) : b.finish = .error .poisoned := by
  simp [finish, h]

/-- A builder that has failed is not changed by any call. -/
theorem run_builder_of_poisoned {b : Builder} (op : Op) (h : b.poisoned = true) :
    (op.run b).builder = b := by
  cases hargs : op.argumentFailure? b.config with
  | some f => rw [Op.run_of_argumentFailure hargs]
  | none => rcases Op.run_of_poisoned hargs h with hrun | hrun <;> rw [hrun]

theorem after_of_poisoned {b : Builder} (h : b.poisoned = true) (ops : List Op) :
    b.after ops = b := by
  refine after_induction (P := fun b' => b' = b) rfl ?_ ops
  rintro _ op rfl
  exact run_builder_of_poisoned op h

end Builder

/-- A template does not make an element unless its builder can be finished. -/
theorem Element.realize_template_ne_ok {config : Config} {kind : Kind} {calls : List Op}
    {lenient : Bool} {e : BuildError}
    (h : ((new kind config).after calls).finish = .error e) (s : Subtree) :
    (Element.template kind calls lenient).realize config ≠ .ok s := by
  intro hs
  rw [Element.finish_of_realize hs] at h
  cases h

theorem Op.run_arrayLike_of_unfinished {b : Builder} {slot : Slot} {c : Cardinality} {kind : Kind}
    {calls : List Op} {lenient : Bool} {e : BuildError}
    (h : ((new kind b.config).after calls).finish = .error e) :
    ((Op.arrayLike slot c (.template kind calls lenient)).run b).failure? ≠ none := by
  intro hf
  obtain ⟨d, hd, -⟩ := Op.exists_deed hf
  cases hd with
  | arrayLike _ _ hs => exact Element.realize_template_ne_ok h _ hs

/-- A call that is refused, whatever for, has changed nothing but the mark. Behind
it the builder reads as before for ever: it cannot be finished, and a call that is
made is refused because of the mark, if it comes to an end at all. A call of which
an argument cannot be made is not made; and an array is not put anywhere if the
template of its elements has left its own builder open or marked. -/
theorem refusal_atomic_and_final (b : Builder) (op : Op) :
    (∀ f, op.argumentFailure? b.config = some f → op.run b = ⟨b, some f⟩) ∧
    (∀ e, op.argumentFailure? b.config = none → (op.run b).failure? = some (.refused e) →
      (op.run b).builder = { b with poisoned := true } ∧
      ∀ later : List Op,
        ReadsAs ((op.run b).builder.after later) b ∧
        ((op.run b).builder.after later).finish = .error .poisoned ∧
        ∀ next : Op,
          (next.run ((op.run b).builder.after later)).builder = (op.run b).builder ∧
          (next.argumentFailure? b.config = none →
            (next.run ((op.run b).builder.after later)).failure? = some (.refused .poisoned) ∨
            (next.run ((op.run b).builder.after later)).failure? = some .outOfCalendar)) ∧
    (∀ slot c kind calls lenient e, op = .arrayLike slot c (.template kind calls lenient) →
      ((new kind b.config).after calls).finish = .error e → (op.run b).failure? ≠ none) := by
  refine ⟨fun f => Op.run_of_argumentFailure, ?_, ?_⟩
  · intro e hargs h
    have hb : (op.run b).builder = { b with poisoned := true } := Op.run_refused hargs h
    refine ⟨hb, fun later => ?_⟩
    have hlater : (op.run b).builder.after later = { b with poisoned := true } := by
      rw [hb]
      exact after_of_poisoned rfl later
    rw [hlater, hb]
    -- No call moves the mark again, so whatever comes later meets this very builder.
    refine ⟨.poison b, finish_of_poisoned rfl, fun next => ?_⟩
    refine ⟨run_builder_of_poisoned next rfl, fun hnext => ?_⟩
    rcases Op.run_of_poisoned (b := { b with poisoned := true }) hnext rfl with hrun | hrun
    · exact .inl (by rw [hrun])
    · exact .inr (by rw [hrun])
  · rintro slot c kind calls lenient e rfl h
    exact Op.run_arrayLike_of_unfinished h

def openList : Builder := (new .object {}).after [.pushArray (.key "items")]

/-- A call whose template goes on behind a refusal. -/
def swallowing : Op := .eachLike .next (.template .object [.pop] true)

def unreadable : Op := .add .next (.exactMoment "'" none none)

theorem refusal_atomic_and_final_of_swallowing :
    (swallowing.run openList).builder = { openList with poisoned := true } ∧
    ((swallowing.run openList).builder.after [.pop, swallowing]).finish = .error .poisoned ∧
    (Op.pop.run ((swallowing.run openList).builder.after [.pop, swallowing])).builder =
      (swallowing.run openList).builder ∧
    (swallowing.run openList).failure? ≠ none ∧
    unreadable.run openList =
      ⟨openList, some (.refused (.datePattern "'" .unterminatedQuote))⟩ := by
  have h := (refusal_atomic_and_final openList swallowing).2.1 .poisoned rfl rfl
  obtain ⟨-, hfinish, hnext⟩ := h.2 [.pop, swallowing]
  refine ⟨h.1, hfinish, (hnext .pop).1, ?_, ?_⟩
  · exact (refusal_atomic_and_final openList swallowing).2.2 _ _ .object [.pop] true .poisoned
      rfl rfl
  · exact (refusal_atomic_and_final openList unreadable).1 _ rfl

end Exemplar
