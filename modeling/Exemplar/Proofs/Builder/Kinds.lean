import Exemplar.Proofs.Builder.Failure
import Exemplar.Proofs.Builder.Lookup

/-!
# Which calls get through

A call is accepted or refused by what is in the document where the current container
should be. As the containers that are open are in place, only their kinds matter: a
machine that keeps nothing but a stack of kinds accepts the same calls, and objects to
the others for the same reason. What is written over, what is grafted and what two keys
have in common cannot make a difference.

The machine looks at the slot of a call, and at a template by running it on a stack of
its own. Values are not its business, so it is for runs whose values can be made. Nor
is a call that puts something at a path, which depends on the whole document.
-/

namespace Exemplar

open Builder Builder.Move

/-- Why a call is refused, as far as kinds can tell. -/
inductive Objection where
  | popRoot
  | mismatch (expected found : Kind)
  | cardinality (min max : Nat)
  | unclosed (count : Nat)
  | poisoned
deriving DecidableEq, Repr

def BuildError.objection? : BuildError → Option Objection
  | .popRoot => some .popRoot
  | .containerMismatch _ expected found _ => some (.mismatch expected found)
  | .cardinality min max => some (.cardinality min max)
  | .unclosed count _ => some (.unclosed count)
  | .poisoned => some .poisoned
  | _ => none

def Failure.objection? : Failure → Option Objection
  | .refused e => e.objection?
  | .outOfCalendar => none

/-! ## The machine -/

/-- The kinds of the containers that are open: that of the root, and those above it,
innermost first. -/
structure KindStack where
  root : Kind
  above : List Kind
deriving DecidableEq, Repr

namespace KindStack

def top (st : KindStack) : Kind := st.above.head?.getD st.root

def push (st : KindStack) (kind : Kind) : KindStack := { st with above := kind :: st.above }

def require (st : KindStack) (kind : Kind) : Except Objection KindStack :=
  if st.top = kind then .ok st else .error (.mismatch kind st.top)

def pop (st : KindStack) (expected? : Option Kind) : Except Objection KindStack :=
  match st.above with
  | [] => .error .popRoot
  | kind :: above =>
    match expected? with
    | none => .ok { st with above }
    | some expected =>
      if expected = kind then .ok { st with above } else .error (.mismatch expected kind)

def unclosed? (st : KindStack) : Option Objection :=
  if st.above = [] then none else some (.unclosed st.above.length)

end KindStack

def Cardinality.objection? (c : Cardinality) : Option Objection :=
  match c.min?, c.max? with
  | some min, some max => if max < min then some (.cardinality min max) else none
  | _, _ => none

mutual

/-- What a call comes to. Whatever is put at a path is not looked at. -/
def Op.track (st : KindStack) : Op → Except Objection KindStack
  | .opening _ kind slot => (st.require slot.kind).map (·.push kind)
  | .closing _ expected? => st.pop expected?
  | .put _ slot _ | .add slot _ | .graft slot _ => st.require slot.kind
  | .putNamed .. | .graftAt .. => .ok st
  | .eachKey .. => st.require .object
  | .arrayLike slot cardinality element =>
    match cardinality.objection? with
    | some o => .error o
    | none =>
      match element.objection? with
      | some o => .error o
      | none => st.require slot.kind

/-- What there is to object to in an element. A template that goes on behind an objection
is objected to for having hidden it. -/
def Element.objection? : Element → Option Objection
  | .value _ | .subtree _ => none
  | .template kind calls lenient =>
    match Op.trackAll ⟨kind, []⟩ calls with
    | .ok st => st.unclosed?
    | .error o => some (if lenient then .poisoned else o)

def Op.trackAll (st : KindStack) : List Op → Except Objection KindStack
  | [] => .ok st
  | op :: ops =>
    match op.track st with
    | .ok st => Op.trackAll st ops
    | .error o => .error o

end

namespace KindStack

/-- What there is to object to in each of some calls. Behind the first objection, all
that is objected to is that there was one. -/
def verdicts (st : KindStack) : List Op → List (Option Objection)
  | [] => []
  | op :: ops =>
    match op.track st with
    | .ok st => none :: st.verdicts ops
    | .error o => some o :: ops.map fun _ => some .poisoned

def finishVerdict (st : KindStack) (ops : List Op) : Option Objection :=
  match Op.trackAll st ops with
  | .ok st => st.unclosed?
  | .error _ => some .poisoned

end KindStack

/-! ## Runs -/

mutual

/-- The values in a call can be made, also in templates, and nothing is put at a path. -/
def Op.Makeable (config : Config) : Op → Prop
  | .put _ _ g | .putNamed _ _ g | .add _ g => ∃ v, g.make config = .ok v
  | .arrayLike _ _ element => element.Makeable config
  | .graftAt .. => False
  | .opening .. | .closing .. | .eachKey .. | .graft .. => True

def Element.Makeable (config : Config) : Element → Prop
  | .value g => ∃ v, g.make config = .ok v
  | .subtree _ => True
  | .template _ calls _ => Op.AllMakeable config calls

def Op.AllMakeable (config : Config) : List Op → Prop
  | [] => True
  | op :: ops => op.Makeable config ∧ Op.AllMakeable config ops

end

namespace Builder

/-- What comes of each of some calls: its failure, if it fails. -/
def failures (b : Builder) : List Op → List (Option Failure)
  | [] => []
  | op :: ops => (op.run b).failure? :: (op.run b).builder.failures ops

def finishFailure? (b : Builder) : Option Failure :=
  match b.finish with
  | .ok _ => none
  | .error e => some (.refused e)

/-- A stack has the kinds of the containers that are open in a builder that has not
failed, and that makes its values with a configuration. -/
structure Mirrors (config : Config) (b : Builder) (st : KindStack) : Prop where
  framed : b.Framed
  root : b.rootKind = st.root
  above : b.frames.map Frame.kind = st.above
  config : b.config = config
  sound : b.poisoned = false

end Builder

/-- There is a failure exactly if there is an objection, and it is for that reason. -/
def Failure.Agrees (f? : Option Failure) (o? : Option Objection) : Prop :=
  f?.map Failure.objection? = o?.map some

namespace Builder

variable {b b' : Builder} {config : Config} {st st' : KindStack}

namespace Mirrors

theorem new (kind : Kind) (config : Config) : (Builder.new kind config).Mirrors config ⟨kind, []⟩ :=
  ⟨.new kind config, rfl, rfl, rfl, rfl⟩

theorem current_kind (h : b.Mirrors config st) : b.current.kind = st.top := by
  rw [KindStack.top, ← h.above, ← h.root, List.head?_map, current]
  cases b.frames.head? <;> rfl

theorem depth (h : b.Mirrors config st) : b.depth = st.above.length := by
  rw [← h.above, List.length_map, Builder.depth]

theorem kindAt_current (h : b.Mirrors config st) :
    b.document.kindAt? b.current.path = some st.top := by
  rw [h.framed.kindAt_current, h.current_kind]

theorem exists_perform_write (h : b.Mirrors config st) {slot : Slot} (hslot : st.top = slot.kind)
    (v : Json) (notes : List Note) {opens? : Option Kind}
    (hopens : ∀ k ∈ opens?, v.kind? = some k) :
    ∃ b', b.perform? (.write slot v notes opens?) = some b' ∧
      b'.Mirrors config { st with above := opens?.toList ++ st.above } := by
  have hins : (b.document.insertAt? b.current.path slot v).isSome := by
    rw [Json.insertAt?_isSome_iff, h.kindAt_current, hslot]
  obtain ⟨⟨document, p⟩, hins⟩ := Option.isSome_iff_exists.1 hins
  have hwrite : b.perform? (.write slot v notes opens?) = some _ :=
    perform?_write_eq_some_iff.2 ⟨document, p, hins, rfl⟩
  refine ⟨_, hwrite, h.framed.perform hwrite ?_, h.root, ?_, h.config, h.sound⟩
  · rintro _ _ _ k ⟨⟩
    exact hopens k rfl
  · rw [List.map_append, h.above]
    cases opens? <;> rfl

theorem place_bind (h : b.Mirrors config st) {slot : Slot} (hslot : st.top ≠ slot.kind)
    (call : String) (v : Json) (k : Path → Move Unit) :
    (place call slot v >>= k) b = .error (.refused (b.mismatch call slot.kind)) b := by
  rw [bind_apply]
  cases hplace : place call slot v b with
  | ok p b₁ =>
      obtain ⟨document, hins, -⟩ := place_eq_ok_iff.1 hplace
      have hsome : (b.document.insertAt? b.current.path slot v).isSome := by rw [hins]; rfl
      rw [Json.insertAt?_isSome_iff, h.kindAt_current] at hsome
      exact absurd (Option.some.inj hsome) hslot
  | error f b₁ =>
      obtain rfl := atomic_place call slot v b f b₁ hplace
      rw [h.framed.place_error hplace]

theorem objection?_mismatch (h : b.Mirrors config st) (call : String) (expected : Kind) :
    (b.mismatch call expected).objection? = some (.mismatch expected st.top) := by
  rw [mismatch, BuildError.objection?, h.current_kind]

end Mirrors

theorem failure?_guard_of_error {m : Move Unit} {e : BuildError} (hb : b.poisoned = false)
    (hm : m b = .error (.refused e) b') : (b.guard m).failure? = some (.refused e) := by
  simp [guard, hb, hm]

end Builder

/-- A call comes to what the machine makes of it: it gets through to a builder that has
the kinds of the new stack, or it is refused for what is objected to. -/
def Outcome.Follows (config : Config) (out : Outcome) : Except Objection KindStack → Prop
  | .ok st => out.failure? = none ∧ out.builder.Mirrors config st
  | .error o => ∃ e, out.failure? = some (.refused e) ∧ e.objection? = some o

def Follows {α : Type} (r : Except Failure α) : Option Objection → Prop
  | none => ∃ a, r = .ok a
  | some o => ∃ e, r = .error (.refused e) ∧ e.objection? = some o

/-- Calls of a template lead to a builder that has the kinds of the stack. If something is
objected to, they end in a refusal, or in a builder that has failed if they go on behind
refusals. -/
def TemplateFollows (config : Config) (lenient : Bool) (r : Except Failure Builder) :
    Except Objection KindStack → Prop
  | .ok st => ∃ b, r = .ok b ∧ b.Mirrors config st
  | .error o =>
    if lenient then ∃ b, r = .ok b ∧ b.poisoned = true
    else ∃ e, r = .error (.refused e) ∧ e.objection? = some o

theorem Cardinality.follows_check (c : Cardinality) :
    Follows (Generator.orRefuse c.check) c.objection? := by
  rw [Cardinality.check, Cardinality.objection?]
  cases c.min? with
  | none => exact ⟨(), rfl⟩
  | some min =>
      cases c.max? with
      | none => exact ⟨(), rfl⟩
      | some max =>
          dsimp only
          split
          · exact ⟨_, rfl, rfl⟩
          · exact ⟨(), rfl⟩

namespace Builder

variable {b b' : Builder} {config : Config} {st st' : KindStack}

theorem Mirrors.follows_finish (h : b.Mirrors config st) :
    Follows (Generator.orRefuse b.finish) st.unclosed? := by
  rw [finish, h.sound, KindStack.unclosed?, ← h.depth, ← h.above]
  cases hf : b.frames with
  | nil => exact ⟨_, rfl⟩
  | cons f fs => exact ⟨_, rfl, rfl⟩

theorem Mirrors.follows_write (h : b.Mirrors config st) {op : Op} {slot : Slot} {v : Json}
    {notes : List Note} {opens? : Option Kind} (hop : op.Does b (.write slot v notes opens?))
    (hopens : ∀ k ∈ opens?, v.kind? = some k) {call : String} {m : Move Unit}
    {k : Path → Move Unit} (hrun : op.run b = b.guard m) (hm : m b = (place call slot v >>= k) b) :
    (op.run b).Follows config
      ((st.require slot.kind).map fun st => { st with above := opens?.toList ++ st.above }) := by
  rw [KindStack.require]
  split
  case isTrue hslot =>
    obtain ⟨b', hb', hmirrors⟩ := h.exists_perform_write hslot v notes hopens
    rw [Op.run_eq_ok_iff.2 ⟨h.sound, _, hop, hb'⟩]
    exact ⟨rfl, hmirrors⟩
  case isFalse hslot =>
    rw [h.place_bind hslot] at hm
    refine ⟨_, ?_, h.objection?_mismatch call slot.kind⟩
    rw [hrun]
    exact failure?_guard_of_error h.sound hm

theorem Mirrors.follows_put (h : b.Mirrors config st) {op : Op} {slot : Slot} {v : Json}
    {notes : List Note} (hop : op.Does b (.write slot v notes none)) {call : String}
    {m : Move Unit} {k : Path → Move Unit} (hrun : op.run b = b.guard m)
    (hm : m b = (place call slot v >>= k) b) :
    (op.run b).Follows config (st.require slot.kind) := by
  have hwrite := h.follows_write hop (by simp) hrun hm
  cases hrequire : st.require slot.kind <;> simpa [hrequire, Except.map] using hwrite

theorem Mirrors.kind_defaultSlot (h : b.Mirrors config st) (name : String) :
    (b.defaultSlot name).kind = st.top := by
  rw [defaultSlot, ← h.current_kind]
  cases b.current.kind <;> rfl

theorem Mirrors.follows_close (h : b.Mirrors config st) (call : String) (expected? : Option Kind) :
    ((Op.closing call expected?).run b).Follows config (st.pop expected?) := by
  rw [KindStack.pop, ← h.above]
  cases hf : b.frames with
  | nil =>
      have hclosed : closeContainer call expected? b = .error (.refused .popRoot) b := by
        rw [closeContainer_apply, hf]
      exact ⟨.popRoot, failure?_guard_of_error h.sound hclosed, rfl⟩
  | cons f fs =>
      have hclose : b.perform? .close = some { b with frames := fs } :=
        perform?_close_eq_some_iff.2 ⟨f, fs, hf, rfl⟩
      have hmirrors :
          Mirrors config { b with frames := fs } { st with above := fs.map Frame.kind } :=
        ⟨h.framed.perform hclose (by simp), h.root, rfl, h.config, h.sound⟩
      have hcurrent : b.current.kind = f.kind := by simp [current, hf]
      have hdone : (∀ k ∈ expected?, k = f.kind) →
          (Op.closing call expected?).run b = ⟨{ b with frames := fs }, none⟩ := by
        rw [← hcurrent]
        exact fun hk => Op.run_eq_ok_iff.2 ⟨h.sound, _, .closing call hk, hclose⟩
      cases expected? with
      | none =>
          rw [hdone (by simp)]
          exact ⟨rfl, hmirrors⟩
      | some k =>
          change Outcome.Follows _ _ (if k = f.kind then .ok _ else .error _)
          split
          case isTrue hk =>
            rw [hdone (by simp [hk])]
            exact ⟨rfl, hmirrors⟩
          case isFalse hk =>
            have hclosed : closeContainer call (some k) b =
                .error (.refused (b.mismatch call k)) b := by
              rw [closeContainer_apply, hf]
              simp [Option.filter, hk]
            refine ⟨_, failure?_guard_of_error h.sound hclosed, ?_⟩
            rw [h.objection?_mismatch, ← h.current_kind, hcurrent]

theorem Mirrors.follows_eachKey (h : b.Mirrors config st) (rules : List Rule)
    (example? : Option String) :
    ((Op.eachKey rules example?).run b).Follows config (st.require .object) := by
  rw [KindStack.require, ← h.current_kind]
  cases hkind : b.current.kind with
  | object =>
      have hnote : b.perform? (.note [(Rule.eachKey rules example?).note]) = some { b with
          registry := b.registry.pushAll [(b.current.path.render, .eachKey rules example?)] } := by
        rw [perform?, List.map_singleton, Rule.under_note]
      rw [Op.run_eq_ok_iff.2 ⟨h.sound, _, .eachKey rules example? hkind, hnote⟩]
      exact ⟨rfl, h.framed.perform hnote (by simp), h.root, h.above, h.config, h.sound⟩
  | array =>
      have hrefused : eachKey rules example? b =
          .error (.refused (b.mismatch "each_key" .object)) b := by
        rw [eachKey_apply, hkind]
      refine ⟨_, failure?_guard_of_error h.sound hrefused, ?_⟩
      rw [h.objection?_mismatch, ← h.current_kind, hkind]

end Builder

/-! ## What was made before the call -/

namespace Op

variable {b : Builder} {config : Config} {op : Op}

theorem argumentFailure?_of_makeable (h : op.Makeable config) :
    op.argumentFailure? config = none := by
  cases op with
  | add slot g =>
      obtain ⟨v, hv⟩ := h
      simp [argumentFailure?, Element.failure?, hv]
  | arrayLike slot c element =>
      cases element with
      | value g =>
          obtain ⟨v, hv⟩ := h
          simp [argumentFailure?, Element.failure?, hv]
      | subtree | template => rfl
  | opening | closing | put | putNamed | eachKey | graft | graftAt => rfl

theorem emit_of_makeable {g : Generator} (hg : ∃ v, g.make b.config = .ok v) (call : String)
    (slot : Slot) : ∃ move, b.emit call slot (g.make b.config) = b.guard move := by
  obtain ⟨v, hv⟩ := hg
  exact ⟨_, by rw [hv]; rfl⟩

theorem run_of_makeable (h : op.Makeable b.config) (hb : b.poisoned = true) :
    op.run b = ⟨b, some (.refused .poisoned)⟩ := by
  have hguard : ∃ move, op.run b = b.guard move := by
    cases op with
    | opening | closing | eachKey | graft | graftAt => exact ⟨_, rfl⟩
    | put call slot g => exact emit_of_makeable h call slot
    | putNamed call name g => exact emit_of_makeable h call (b.defaultSlot name)
    | add slot g =>
        obtain ⟨v, hv⟩ := h
        exact ⟨_, by rw [run, hv]; rfl⟩
    | arrayLike slot c element =>
        have hargs := argumentFailure?_of_makeable h
        rw [argumentFailure?] at hargs
        exact ⟨_, by rw [run, hargs]⟩
  obtain ⟨move, hrun⟩ := hguard
  rw [hrun, guard_of_poisoned move hb]

theorem runTemplate_of_poisoned (hb : b.poisoned = true) {ops : List Op}
    (h : AllMakeable b.config ops) : runTemplate true b ops = .ok b := by
  induction ops with
  | nil => rfl
  | cons op ops ih =>
      rw [AllMakeable] at h
      rw [runTemplate, run_of_makeable h.1 hb]
      exact ih h.2

theorem after_refused (hop : op.Makeable b.config) {e : BuildError}
    (h : (op.run b).failure? = some (.refused e)) :
    (op.run b).builder.poisoned = true ∧ (op.run b).builder.config = b.config := by
  rw [run_refused (argumentFailure?_of_makeable hop) h]
  exact ⟨rfl, rfl⟩

end Op

open KindStack

mutual

/-- A call is accepted or refused as the machine has it. -/
theorem Op.follows {b : Builder} {config : Config} {st : KindStack} (h : b.Mirrors config st) :
    (op : Op) → op.Makeable config → (op.run b).Follows config (op.track st)
  | .opening call kind slot, _ =>
      h.follows_write (.opening call kind slot) (by simp [Json.kind?_empty]) rfl rfl
  | .closing call expected?, _ => h.follows_close call expected?
  | .put call slot g, hg => by
      obtain ⟨v, hv⟩ := hg
      rw [← h.config] at hv
      exact h.follows_put (.put call slot hv) (by rw [Op.run, hv]; rfl) rfl
  | .putNamed call name g, hg => by
      obtain ⟨v, hv⟩ := hg
      rw [← h.config] at hv
      have hfollows := h.follows_put (.putNamed call name hv) (by rw [Op.run, hv]; rfl) rfl
      rwa [require, if_pos (h.kind_defaultSlot name).symm] at hfollows
  | .add slot g, hg => by
      obtain ⟨v, hv⟩ := hg
      rw [← h.config] at hv
      exact h.follows_put (.add slot hv) (by rw [Op.run, hv]; rfl) rfl
  | .eachKey rules example?, _ => h.follows_eachKey rules example?
  | .arrayLike slot c element, he => by
      have hargs := Op.argumentFailure?_of_makeable he
      rw [Op.argumentFailure?, ← h.config] at hargs
      have hrun : (Op.arrayLike slot c element).run b = b.guard (do
          obtained (Generator.orRefuse c.check)
          let s ← obtained (element.realize b.config)
          placeArray slot c s) := by
        rw [Op.run, hargs]
      rw [Op.track]
      -- the bounds are looked at first, then the elements, and the slot last
      match c.objection?, c.follows_check, element.objection?, element.follows he with
      | some o, ⟨e, hcheck, ho⟩, _, _ =>
          rw [hcheck] at hrun
          rw [hrun]
          exact ⟨e, failure?_guard_of_error h.sound rfl, ho⟩
      | none, ⟨(), hcheck⟩, some o, ⟨e, hmade, ho⟩ =>
          rw [hcheck, h.config, hmade] at hrun
          rw [hrun]
          exact ⟨e, failure?_guard_of_error h.sound rfl, ho⟩
      | none, ⟨(), hcheck⟩, none, ⟨s, hmade⟩ =>
          rw [← h.config] at hmade
          rw [hcheck, hmade] at hrun
          have hdoes := Op.Does.arrayLike slot (Generator.orRefuse_eq_ok_iff.1 hcheck) hmade
          exact h.follows_put hdoes hrun rfl
  | .graft slot s, _ => h.follows_put (.graft slot s) rfl rfl

theorem Element.follows {config : Config} :
    (element : Element) → element.Makeable config →
      Follows (element.realize config) element.objection?
  | .value g, hg => by
      obtain ⟨v, hv⟩ := hg
      exact ⟨.ofGenerated v, by rw [Element.realize, hv]; rfl⟩
  | .subtree s, _ => ⟨s, rfl⟩
  | .template kind calls lenient, hcalls => by
      rw [Element.realize, Element.objection?]
      match lenient, Op.trackAll ⟨kind, []⟩ calls,
        Op.follows_runTemplate lenient (.new kind config) calls hcalls with
      | _, .ok st, ⟨b, hrun, hb⟩ =>
          rw [hrun]
          exact hb.follows_finish
      | true, .error o, ⟨b, hrun, hb⟩ =>
          rw [hrun]
          change Follows (Generator.orRefuse b.finish) (some .poisoned)
          rw [finish_of_poisoned hb]
          exact ⟨.poisoned, rfl, rfl⟩
      | false, .error o, ⟨e, hrun, ho⟩ =>
          rw [hrun]
          exact ⟨e, rfl, ho⟩

/-- The calls of a template get through as the machine has it, and leave a mark behind if
they go on behind a refusal. -/
theorem Op.follows_runTemplate (lenient : Bool) {b : Builder} {config : Config} {st : KindStack}
    (h : b.Mirrors config st) :
    (ops : List Op) → Op.AllMakeable config ops →
      TemplateFollows config lenient (Op.runTemplate lenient b ops) (Op.trackAll st ops)
  | [], _ => ⟨b, rfl, h⟩
  | op :: ops, hops => by
      rw [Op.AllMakeable] at hops
      rw [Op.runTemplate, Op.trackAll]
      match op.track st, op.follows h hops.1 with
      | .ok st₁, ⟨hnone, hnext⟩ =>
          rw [hnone]
          exact Op.follows_runTemplate lenient hnext ops hops.2
      | .error o, ⟨e, hfailed, ho⟩ =>
          rw [hfailed]
          cases lenient with
          -- the calls behind the refusal are made, but all of them are refused
          | true =>
              have hmakeable := hops
              rw [← h.config] at hmakeable
              obtain ⟨hpoisoned, hconfig⟩ := Op.after_refused hmakeable.1 hfailed
              refine ⟨_, Op.runTemplate_of_poisoned hpoisoned ?_, hpoisoned⟩
              rw [hconfig]
              exact hmakeable.2
          | false => exact ⟨e, rfl, ho⟩

end

namespace Builder

variable {b : Builder} {config : Config} {st : KindStack} {ops : List Op}

theorem agrees_failures_of_poisoned (hb : b.poisoned = true) (h : Op.AllMakeable b.config ops) :
    List.Forall₂ Failure.Agrees (b.failures ops) (ops.map fun _ => some .poisoned) := by
  induction ops with
  | nil => exact .nil
  | cons op ops ih =>
      rw [Op.AllMakeable] at h
      rw [failures, Op.run_of_makeable h.1 hb]
      exact .cons rfl (ih h.2)

theorem Mirrors.agrees_failures (h : b.Mirrors config st) (hops : Op.AllMakeable config ops) :
    List.Forall₂ Failure.Agrees (b.failures ops) (st.verdicts ops) := by
  induction ops generalizing b st with
  | nil => exact .nil
  | cons op ops ih =>
      rw [Op.AllMakeable] at hops
      rw [failures, verdicts]
      match op.track st, op.follows h hops.1 with
      | .ok st₁, ⟨hnone, hnext⟩ =>
          rw [hnone]
          exact .cons rfl (ih hnext hops.2)
      | .error o, ⟨e, hfailed, ho⟩ =>
          rw [← h.config] at hops
          obtain ⟨hpoisoned, hconfig⟩ := Op.after_refused hops.1 hfailed
          have hfirst : Failure.Agrees (op.run b).failure? (some o) := by
            rw [hfailed]
            exact congrArg some ho
          refine .cons hfirst (agrees_failures_of_poisoned hpoisoned ?_)
          rw [hconfig]
          exact hops.2

theorem Mirrors.agrees_finish (h : b.Mirrors config st) (hops : Op.AllMakeable config ops) :
    Failure.Agrees (b.after ops).finishFailure? (st.finishVerdict ops) := by
  rw [finishVerdict, finishFailure?]
  match Op.trackAll st ops, Op.follows_runTemplate true h ops hops with
  | .ok st₁, ⟨b₁, hrun, hb₁⟩ =>
      obtain rfl := Op.eq_after_of_runTemplate hrun
      change Failure.Agrees _ st₁.unclosed?
      match st₁.unclosed?, hb₁.follows_finish with
      | none, ⟨s, hs⟩ =>
          rw [Generator.orRefuse_eq_ok_iff.1 hs]
          rfl
      | some o, ⟨e, he, ho⟩ =>
          rw [Generator.eq_error_of_orRefuse he]
          exact congrArg some ho
  | .error o, ⟨b₁, hrun, hb₁⟩ =>
      obtain rfl := Op.eq_after_of_runTemplate hrun
      rw [finish_of_poisoned hb₁]
      rfl

end Builder

/-- The machine that keeps nothing but the kinds of the open containers tells what comes
of every call of a run, and of finishing it: what gets through gets through, and what is
refused is refused for what the machine objects to. So no two runs differ in this because
of what has been put into their documents. -/
theorem acceptance_by_kinds (kind : Kind) (config : Config) {ops : List Op}
    (h : Op.AllMakeable config ops) :
    List.Forall₂ Failure.Agrees ((new kind config).failures ops)
      (KindStack.verdicts ⟨kind, []⟩ ops) ∧
    Failure.Agrees ((new kind config).after ops).finishFailure?
      (KindStack.finishVerdict ⟨kind, []⟩ ops) :=
  ⟨Mirrors.agrees_failures (.new kind config) h, Mirrors.agrees_finish (.new kind config) h⟩

/-- Calls that put things where others were, and describe arrays by templates. The last
template goes on behind a refusal of its own, for an array that has no slot here. -/
def overwriting : List Op :=
  [.pushArray (.key "a"), .add .next (.integer (some 1)), .pop,
    .graft (.key "a") ⟨.obj [], {}⟩, .pushObject (.key "a"), .id, .closeObject,
    .eachLike (.key "b") (.template .array [.pushObject .next, .pop] false),
    .eachLike .next (.template .object [.minMaxArrayLike .next 2 1 (.value (.id none)), .id] true),
    .pop]

theorem acceptance_by_kinds_of_overwriting :
    Op.AllMakeable {} overwriting ∧
    List.Forall₂ Failure.Agrees ((new .object {}).failures overwriting)
      (List.replicate 8 none ++ List.replicate 2 (some .poisoned)) ∧
    Failure.Agrees ((new .object {}).after overwriting).finishFailure? (some .poisoned) := by
  have h : Op.AllMakeable {} overwriting := by
    simp [overwriting, Op.AllMakeable, Op.Makeable, Element.Makeable, Generator.make, Op.pushArray,
      Op.pop, Op.pushObject, Op.id, Op.closeObject, Op.eachLike, Op.minMaxArrayLike]
  exact ⟨h, acceptance_by_kinds .object {} h⟩

end Exemplar
