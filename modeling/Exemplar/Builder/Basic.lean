import Exemplar.Cardinality
import Exemplar.Config
import Exemplar.Subtree

/-!
# The builder

A builder holds a document, its rules, and the containers that are open. An
open container is known by its path: it is looked up from the root whenever
something is put into it, so there is only one copy of the document.

A `Move` changes a builder and may be refused on the way. What it has changed
by then stays changed, so a move asks whatever it has to ask before it changes
anything. `Builder.guard` makes a call of a move: a call that is refused marks
the builder, and no further call will succeed.
-/

namespace Exemplar

namespace Json

/-- Put a value into a slot of the container at a path: the document with it,
and the path of the value. -/
def insertAt? (j : Json) (p : Path) (slot : Slot) (v : Json) : Option (Json × Path) :=
  (j.at? p).bind fun container =>
    (container.insert? slot v).bind fun (container, s) =>
      (j.set? p container).map fun j => (j, p.extend s)

/-- Put a value at a step from a container: in place of what is there, or behind
everything. -/
def putChild (container : Json) (s : Segment) (v : Json) : Except GraftFault Json :=
  match container, s with
  | .obj fields, .key name => .ok (.obj (Entries.put fields name v))
  | .arr items, .index i =>
    if i < items.length then .ok (.arr (items.set i v))
    else if i = items.length then .ok (.arr (items ++ [v]))
    else .error .pastEnd
  | _, .wildcard => .error .wildcard
  | _, _ => .error .wrongContainer

end Json

structure Frame where
  kind : Kind
  path : Path
deriving DecidableEq, Repr

structure Builder where
  document : Json
  registry : Registry
  rootKind : Kind
  /-- The open containers below the root, innermost first. -/
  frames : List Frame
  config : Config
  poisoned : Bool

/-- What comes of a call: the builder behind it, and the failure if there is one. -/
structure Outcome where
  builder : Builder
  failure? : Option Failure

namespace Builder

/-- A change of a builder that may be refused on the way. -/
abbrev Move (α : Type) := EStateM Failure Builder α

def new (kind : Kind) (config : Config) : Builder :=
  ⟨.empty kind, {}, kind, [], config, false⟩

def rootFrame (b : Builder) : Frame := ⟨b.rootKind, .root⟩

/-- The innermost open container, which may be the root. -/
def current (b : Builder) : Frame := b.frames.head?.getD b.rootFrame

def depth (b : Builder) : Nat := b.frames.length

def guard (b : Builder) (move : Move Unit) : Outcome :=
  if b.poisoned then ⟨b, some (.refused .poisoned)⟩
  else match move b with
    | .ok _ b => ⟨b, none⟩
    | .error (.refused e) b => ⟨{ b with poisoned := true }, some (.refused e)⟩
    | .error .outOfCalendar b => ⟨b, some .outOfCalendar⟩

def refuse {α : Type} (e : BuildError) : Move α := throw (.refused e)

/-- Go on with what has been made beside the builder, if that could be made. -/
def obtained {α : Type} : Except Failure α → Move α
  | .ok a => pure a
  | .error f => throw f

def mismatch (b : Builder) (call : String) (expected : Kind) : BuildError :=
  .containerMismatch call expected b.current.kind b.current.path

def place (call : String) (slot : Slot) (v : Json) : Move Path := do
  let b ← get
  match b.document.at? b.current.path with
  | none => refuse (.graftTarget b.current.path .containerReplaced)
  | some _ =>
    match b.document.insertAt? b.current.path slot v with
    | none => refuse (b.mismatch call slot.kind)
    | some (document, p) =>
      set { b with document }
      return p

def note (f : Registry → Registry) : Move Unit :=
  modify fun b => { b with registry := f b.registry }

def putGenerated (call : String) (slot : Slot) (g : Generated) : Move Unit := do
  let p ← place call slot g.value
  match g.rule? with
  | some rule => note (·.add p rule)
  | none => return

def openContainer (call : String) (kind : Kind) (slot : Slot) : Move Unit := do
  let p ← place call slot (.empty kind)
  modify fun b => { b with frames := ⟨kind, p⟩ :: b.frames }

/-- Close the innermost open container, which may have to be of a kind. -/
def closeContainer (call : String) (expected? : Option Kind) : Move Unit := do
  let b ← get
  match b.frames with
  | [] => refuse .popRoot
  | frame :: frames =>
    match expected?.filter (· != frame.kind) with
    | some expected => refuse (b.mismatch call expected)
    | none => set { b with frames }

def eachKey (rules : List Rule) (example? : Option String) : Move Unit := do
  let b ← get
  match b.current.kind with
  | .object => note (·.add b.current.path (.eachKey rules example?))
  | .array => refuse (b.mismatch "each_key" .object)

/-- Put an array of equal elements into a slot of the current container. The
rules of the element hold for every element that the array may have. -/
def placeArray (slot : Slot) (c : Cardinality) (element : Subtree) : Move Unit := do
  let count := c.examples?.getD (← get).config.samples.examples
  let p ← place "array_like" slot (.arr (List.replicate count element.document))
  note (·.extendAt p c.rules)
  note (·.mergeAt (p.extend .wildcard) element.registry)

def graft (slot : Slot) (s : Subtree) : Move Unit := do
  let p ← place "graft" slot s.document
  note (·.mergeAt p s.registry)

/-- The document with a value put at a path that leads into a container, unless
an open container would be lost. -/
def documentWith (b : Builder) (target : Path) (v : Json) : Except GraftFault Json :=
  match target.getLast? with
  | none => .error .root
  | some s =>
    let parent := target.dropLast
    if b.frames.any (target.isPrefixOf ·.path) then .error .enclosesOpen
    else match b.document.at? parent with
      | none => .error .parentMissing
      | some container =>
        match container.putChild s v with
        | .error fault => .error fault
        | .ok container => .ok ((b.document.set? parent container).getD b.document)

def graftAt (target : Path) (s : Subtree) : Move Unit := do
  let b ← get
  match b.documentWith target s.document with
  | .error fault => refuse (.graftTarget target fault)
  | .ok document =>
    set { b with document }
    note (·.mergeAt target s.registry)

def finish (b : Builder) : Except BuildError Subtree :=
  if b.poisoned then .error .poisoned
  else match b.frames with
    | [] => .ok ⟨b.document, b.registry⟩
    | frame :: _ => .error (.unclosed b.depth frame.path)

/-- The slot that a call with a name of its own uses: its name in an object, the
next position in an array. -/
def defaultSlot (b : Builder) (name : String) : Slot :=
  match b.current.kind with
  | .object => .key name
  | .array => .next

end Builder

end Exemplar
