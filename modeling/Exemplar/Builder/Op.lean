import Exemplar.Builder.Basic
import Exemplar.Generator

/-!
# Calls of a builder

A call of a builder as a value, so that a run is a list of calls. An array that
is described by its elements may describe them by calls in turn, which are run
on a builder of their own.

A value that is handed to a call is made before the builder is asked. If it
cannot be made, the builder knows nothing of it and is as good as before.
-/

namespace Exemplar

mutual

/-- A call. The calls that put something somewhere have a name, for which the
same move may be known by several. -/
inductive Op where
  | opening (call : String) (kind : Kind) (slot : Slot)
  | closing (call : String) (expected? : Option Kind)
  | put (call : String) (slot : Slot) (g : Generator)
  /-- Make a value and put it where its name says, or at the next position. -/
  | putNamed (call : String) (name : String) (g : Generator)
  /-- Put a value into a slot that was made before. -/
  | add (slot : Slot) (g : Generator)
  | eachKey (rules : List Rule) (example? : Option String)
  | arrayLike (slot : Slot) (cardinality : Cardinality) (element : Element)
  | graft (slot : Slot) (s : Subtree)
  | graftAt (target : Path) (s : Subtree)

inductive Element where
  | value (g : Generator)
  | subtree (s : Subtree)
  /-- The document that some calls build. A `lenient` element goes on behind a
  call that fails. -/
  | template (kind : Kind) (calls : List Op) (lenient : Bool)

end

/-- The failure to make an element that has to be made before the call. -/
def Element.failure? (config : Config) : Element → Option Failure
  | .value g =>
    match g.make config with
    | .error f => some f
    | .ok _ => none
  | _ => none

namespace Builder

/-- Put a value into a slot that may have failed to be made. -/
def emit (b : Builder) (call : String) (slot : Slot) (made : Except Failure Generated) :
    Outcome :=
  match made with
  | .error .outOfCalendar => ⟨b, some .outOfCalendar⟩
  | .error (.refused e) => b.guard (refuse e)
  | .ok g => b.guard (putGenerated call slot g)

end Builder

open Generator (orRefuse)

mutual

def Op.run (b : Builder) : Op → Outcome
  | .opening call kind slot => b.guard (Builder.openContainer call kind slot)
  | .closing call expected? => b.guard (Builder.closeContainer call expected?)
  | .put call slot g => b.emit call slot (g.make b.config)
  | .putNamed call name g => b.emit call (b.defaultSlot name) (g.make b.config)
  | .add slot g =>
    match g.make b.config with
    | .error f => ⟨b, some f⟩
    | .ok g => b.emit "add" slot (.ok g)
  | .eachKey rules example? => b.guard (Builder.eachKey rules example?)
  | .arrayLike slot cardinality element =>
    match element.failure? b.config with
    | some f => ⟨b, some f⟩
    | none => b.guard do
      Builder.obtained (orRefuse cardinality.check)
      let s ← Builder.obtained (element.realize b.config)
      Builder.placeArray slot cardinality s
  | .graft slot s => b.guard (Builder.graft slot s)
  | .graftAt target s => b.guard (Builder.graftAt target s)

def Element.realize (config : Config) : Element → Except Failure Subtree
  | .value g => (g.make config).map Subtree.ofGenerated
  | .subtree s => .ok s
  | .template kind calls lenient =>
    match Op.runTemplate lenient (.new kind config) calls with
    | .error f => .error f
    | .ok b => orRefuse b.finish

/-- Make calls one after the other. The first failure ends them, unless they are
`lenient` and it is a refusal. -/
def Op.runTemplate (lenient : Bool) (b : Builder) : List Op → Except Failure Builder
  | [] => .ok b
  | op :: ops =>
    let outcome := op.run b
    match outcome.failure? with
    | none => Op.runTemplate lenient outcome.builder ops
    | some .outOfCalendar => .error .outOfCalendar
    | some (.refused e) =>
      if lenient then Op.runTemplate lenient outcome.builder ops else .error (.refused e)

end

namespace Builder

def runStrict (b : Builder) (ops : List Op) : Except Failure Builder :=
  Op.runTemplate false b ops

def build (kind : Kind) (config : Config) (ops : List Op) : Except Failure Subtree :=
  (Element.template kind ops false).realize config

end Builder

end Exemplar
