import Exemplar.Builder.Op

/-!
# Moves and calls of moves

A move takes a builder to a builder, with a result or with a failure. What a
failing move leaves behind is a builder too, and nothing in the type of a move
says which. A move is `Atomic` if it is the one that it was given. Moves are put
together from parts that fail and parts that change something, and `Atomic.bind`
is the rule that they follow: after the first change, nothing fails any more.
-/

namespace Exemplar

namespace Builder

namespace Move

variable {α β : Type}

/-- A failure leaves the builder as it was. -/
def Atomic (m : Move α) : Prop := ∀ b f b', m b = .error f b' → b' = b

/-- A move that does not fail. -/
def Sure (m : Move α) : Prop := ∀ b f b', m b ≠ .error f b'

/-- A move that changes nothing. -/
def Still (m : Move α) : Prop := ∀ b a b', m b = .ok a b' → b' = b

theorem bind_apply (m : Move α) (f : α → Move β) (b : Builder) :
    (m >>= f) b = match m b with
      | .ok a b' => f a b'
      | .error e b' => .error e b' := by
  simp only [bind, EStateM.bind]
  cases m b <;> rfl

theorem get_bind_apply (f : Builder → Move β) (b : Builder) :
    ((get : Move Builder) >>= f) b = f b b := rfl

theorem bind_eq_ok_iff {m : Move α} {f : α → Move β} {b b' : Builder} {c : β} :
    (m >>= f) b = .ok c b' ↔ ∃ a b₁, m b = .ok a b₁ ∧ f a b₁ = .ok c b' := by
  rw [bind_apply]
  cases m b <;> simp [and_assoc]

theorem bind_eq_error_iff {m : Move α} {f : α → Move β} {b b' : Builder} {e : Failure} :
    (m >>= f) b = .error e b' ↔
      m b = .error e b' ∨ ∃ a b₁, m b = .ok a b₁ ∧ f a b₁ = .error e b' := by
  rw [bind_apply]
  cases m b <;> simp [and_assoc]

theorem refuse_ne_ok {e : BuildError} {b b' : Builder} {a : α} : refuse e b ≠ .ok a b' := nofun

namespace Sure

theorem atomic {m : Move α} (h : m.Sure) : m.Atomic := fun b f b' hb => absurd hb (h b f b')

theorem bind {m : Move α} {f : α → Move β} (hm : m.Sure) (hf : ∀ a, (f a).Sure) :
    (m >>= f).Sure := by
  intro b e b' h
  rcases bind_eq_error_iff.1 h with h | ⟨a, b₁, -, h⟩
  · exact hm b e b' h
  · exact hf a b₁ e b' h

end Sure

namespace Atomic

/-- What may fail comes before what changes the builder. -/
theorem bind {m : Move α} {f : α → Move β} (hm : m.Atomic) (hf : ∀ a, (f a).Sure) :
    (m >>= f).Atomic := by
  intro b e b' h
  rcases bind_eq_error_iff.1 h with h | ⟨a, b₁, -, h⟩
  · exact hm b e b' h
  · exact absurd h (hf a b₁ e b')

/-- As long as nothing has changed, anything may fail. -/
theorem bind_of_still {m : Move α} {f : α → Move β} (hm : m.Atomic) (hs : m.Still)
    (hf : ∀ a, (f a).Atomic) : (m >>= f).Atomic := by
  intro b e b' h
  rcases bind_eq_error_iff.1 h with h | ⟨a, b₁, hb, h⟩
  · exact hm b e b' h
  · rw [hs b a b₁ hb] at h
    exact hf a b e b' h

theorem get_bind {f : Builder → Move β} (hf : ∀ b, (f b).Atomic) : (get >>= f).Atomic :=
  fun b e b' h => hf b b e b' h

end Atomic

theorem atomic_refuse (e : BuildError) : (refuse e : Move α).Atomic := by
  intro b f b' h
  cases h
  rfl

theorem sure_set (b : Builder) : (set b : Move PUnit).Sure := fun _ _ _ => nofun

theorem sure_modify (f : Builder → Builder) : (modify f : Move PUnit).Sure := fun _ _ _ => nofun

theorem sure_pure (a : α) : (pure a : Move α).Sure := fun _ _ _ => nofun

theorem sure_note (f : Registry → Registry) : (note f).Sure := sure_modify _

theorem obtained_eq_ok_iff {r : Except Failure α} {a : α} {b b' : Builder} :
    obtained r b = .ok a b' ↔ r = .ok a ∧ b' = b := by
  constructor
  · intro h
    cases r with
    | error f => cases h
    | ok a' =>
        cases h
        exact ⟨rfl, rfl⟩
  · rintro ⟨rfl, rfl⟩
    rfl

theorem atomic_obtained (r : Except Failure α) : (obtained r).Atomic := by
  intro b f b' h
  cases r <;> cases h
  rfl

theorem still_obtained (r : Except Failure α) : (obtained r).Still :=
  fun _ _ _ h => (obtained_eq_ok_iff.1 h).2

end Move

open Move

/-! ## The moves -/

theorem place_apply (call : String) (slot : Slot) (v : Json) (b : Builder) :
    place call slot v b =
      match b.document.at? b.current.path with
      | none => .error (.refused (.graftTarget b.current.path .containerReplaced)) b
      | some _ =>
        match b.document.insertAt? b.current.path slot v with
        | none => .error (.refused (b.mismatch call slot.kind)) b
        | some (document, p) => .ok p { b with document } := by
  rw [place, get_bind_apply]
  cases b.document.at? b.current.path with
  | none => rfl
  | some c => cases b.document.insertAt? b.current.path slot v <;> rfl

theorem closeContainer_apply (call : String) (expected? : Option Kind) (b : Builder) :
    closeContainer call expected? b =
      match b.frames with
      | [] => .error (.refused .popRoot) b
      | frame :: frames =>
        match expected?.filter (· != frame.kind) with
        | some expected => .error (.refused (b.mismatch call expected)) b
        | none => .ok () { b with frames } := by
  rw [closeContainer, get_bind_apply]
  cases b.frames with
  | nil => rfl
  | cons frame frames =>
      dsimp only
      cases expected?.filter (· != frame.kind) <;> rfl

theorem eachKey_apply (rules : List Rule) (example? : Option String) (b : Builder) :
    eachKey rules example? b =
      match b.current.kind with
      | .object =>
        .ok () { b with registry := b.registry.add b.current.path (.eachKey rules example?) }
      | .array => .error (.refused (b.mismatch "each_key" .object)) b := by
  rw [eachKey, get_bind_apply]
  cases b.current.kind <;> rfl

theorem graftAt_apply (target : Path) (s : Subtree) (b : Builder) :
    graftAt target s b =
      match b.documentWith target s.document with
      | .error fault => .error (.refused (.graftTarget target fault)) b
      | .ok document =>
        .ok () { b with document, registry := b.registry.mergeAt target s.registry } := by
  rw [graftAt, get_bind_apply]
  cases b.documentWith target s.document <;> rfl

theorem place_eq_ok_iff {call : String} {slot : Slot} {v : Json} {b b' : Builder} {p : Path} :
    place call slot v b = .ok p b' ↔
      ∃ document, b.document.insertAt? b.current.path slot v = some (document, p) ∧
        b' = { b with document } := by
  rw [place_apply]
  cases hc : b.document.at? b.current.path with
  | none => simp [Json.insertAt?, hc]
  | some c =>
      cases b.document.insertAt? b.current.path slot v with
      | none => simp
      | some r =>
          constructor
          · intro h
            cases h
            exact ⟨_, rfl, rfl⟩
          · rintro ⟨document, h, rfl⟩
            cases h
            rfl

theorem atomic_place (call : String) (slot : Slot) (v : Json) : (place call slot v).Atomic := by
  refine Atomic.get_bind fun b => ?_
  split
  · exact atomic_refuse _
  · split
    · exact atomic_refuse _
    · exact ((sure_set _).bind fun _ => sure_pure _).atomic

theorem atomic_putGenerated (call : String) (slot : Slot) (g : Generated) :
    (putGenerated call slot g).Atomic := by
  refine Atomic.bind (atomic_place _ _ _) fun p => ?_
  split
  · exact sure_note _
  · exact sure_pure _

theorem atomic_openContainer (call : String) (kind : Kind) (slot : Slot) :
    (openContainer call kind slot).Atomic :=
  Atomic.bind (atomic_place _ _ _) fun _ => sure_modify _

theorem atomic_closeContainer (call : String) (expected? : Option Kind) :
    (closeContainer call expected?).Atomic := by
  refine Atomic.get_bind fun b => ?_
  split
  · exact atomic_refuse _
  · split
    · exact atomic_refuse _
    · exact (sure_set _).atomic

theorem atomic_eachKey (rules : List Rule) (example? : Option String) :
    (eachKey rules example?).Atomic := by
  refine Atomic.get_bind fun b => ?_
  split
  · exact (sure_note _).atomic
  · exact atomic_refuse _

theorem atomic_placeArray (slot : Slot) (c : Cardinality) (element : Subtree) :
    (placeArray slot c element).Atomic :=
  Atomic.get_bind fun _ =>
    Atomic.bind (atomic_place _ _ _) fun _ => (sure_note _).bind fun _ => sure_note _

theorem atomic_graft (slot : Slot) (s : Subtree) : (graft slot s).Atomic :=
  Atomic.bind (atomic_place _ _ _) fun _ => sure_note _

theorem atomic_graftAt (target : Path) (s : Subtree) : (graftAt target s).Atomic := by
  refine Atomic.get_bind fun b => ?_
  split
  · exact atomic_refuse _
  · exact ((sure_set _).bind fun _ => sure_note _).atomic

/-! ## Calls of moves -/

theorem guard_eq_ok_iff {b b' : Builder} {move : Move Unit} :
    b.guard move = ⟨b', none⟩ ↔ b.poisoned = false ∧ move b = .ok () b' := by
  rw [guard]
  cases b.poisoned with
  | true => simp
  | false =>
      cases hm : move b with
      | ok a b₁ => simp
      | error f b₁ => cases f <;> simp

/-- A call that is refused leaves nothing behind but the mark. -/
theorem guard_refused {b : Builder} {move : Move Unit} {e : BuildError} (hm : move.Atomic)
    (h : (b.guard move).failure? = some (.refused e)) :
    (b.guard move).builder = { b with poisoned := true } := by
  rw [guard] at h ⊢
  cases hp : b.poisoned with
  | true =>
      cases b
      simp_all
  | false =>
      cases hmove : move b with
      | ok a b₁ => simp [hp, hmove] at h
      | error f b₁ =>
          obtain rfl := hm b f b₁ hmove
          cases f with
          | refused => simp
          | outOfCalendar => simp [hp, hmove] at h

theorem guard_outOfCalendar {b : Builder} {move : Move Unit} (hm : move.Atomic)
    (h : (b.guard move).failure? = some .outOfCalendar) : (b.guard move).builder = b := by
  rw [guard] at h ⊢
  cases hp : b.poisoned with
  | true => simp [hp] at h
  | false =>
      cases hmove : move b with
      | ok a b₁ => simp [hp, hmove] at h
      | error f b₁ =>
          obtain rfl := hm b f b₁ hmove
          cases f with
          | refused => simp [hp, hmove] at h
          | outOfCalendar => simp

theorem guard_of_poisoned {b : Builder} (move : Move Unit) (h : b.poisoned = true) :
    b.guard move = ⟨b, some (.refused .poisoned)⟩ := by
  simp [guard, h]

end Builder

end Exemplar
