import Exemplar.Pattern.Automaton.Bytes
import Exemplar.Pattern.Automaton.Size
import Std.Data.HashMap

/-!
# Automata of classes

The automaton of a class reads the bytes of one character. States with the same
links are made once only, as long as they are remembered: a memory has a number
of slots, each key belongs to one of them, and a newer key takes the place of an
older one.

Forward, the sequences of byte ranges come in ascending order. What two
neighbours begin with is shared, and what is left behind is final and can be
shared with what was there before. Backward, the sequences are followed from
their ends and share what they end with.
-/

namespace Exemplar.Pattern.Automaton

def digest (key : List Nat) : UInt64 :=
  key.foldl (fun h n => (h ^^^ n.toUInt64) * 1099511628211) 14695981039346656037

/-- The states that are remembered, each by its key. -/
structure Memory where
  slots : Nat
  entries : Std.HashMap Nat (List Nat × Nat)

namespace Memory

def ofSlots (slots : Nat) : Memory := ⟨slots, ∅⟩

def slot (m : Memory) (key : List Nat) : Nat := (digest key).toNat % m.slots

def find? (m : Memory) (key : List Nat) : Option Nat :=
  match m.entries[m.slot key]? with
  | some (other, state) => if other = key then some state else none
  | none => none

def put (m : Memory) (key : List Nat) (state : Nat) : Memory :=
  { m with entries := m.entries.insert (m.slot key) (key, state) }

end Memory

structure Draft where
  size : Size
  memory : Memory

structure Arrow where
  range : ByteRange
  target : Nat

/-- What tells states with links apart. -/
def Arrow.key (arrows : List Arrow) : List Nat :=
  arrows.flatMap fun a => [a.range.first, a.range.last, a.target]

/-- A state with some links, which is a new one if no such state is remembered. -/
def Draft.state (d : Draft) (arrows : List Arrow) : Nat × Draft :=
  let key := Arrow.key arrows
  match d.memory.find? key with
  | some state => (state, d)
  | none => (d.size.states, ⟨d.size.addArrows arrows.length, d.memory.put key d.size.states⟩)

/-! ## Forward -/

/-- A state that can get more links: the last one has no target yet. -/
structure OpenState where
  arrows : List Arrow := []
  pending : Option ByteRange := none

namespace OpenState

def close (o : OpenState) (target : Nat) : OpenState :=
  match o.pending with
  | some range => ⟨o.arrows ++ [⟨range, target⟩], none⟩
  | none => o

/-- Make the states of a path, from its end on, which leads to `target`. -/
def closeAll (target : Nat) : List OpenState → Draft → Nat × Draft
  | [], d => (target, d)
  | o :: path, d =>
    let (next, d) := closeAll target path d
    d.state (o.close next).arrows

/-- Add a sequence to a path. The path is kept as far as the sequence follows
it; the rest of it is made, and the rest of the sequence takes its place. -/
def follow (target : Nat) : List OpenState → List ByteRange → Draft → List OpenState × Draft
  | o :: path, r :: rs, d =>
    if o.pending = some r then
      let (path, d) := follow target path rs d
      (o :: path, d)
    else
      let (next, d) := closeAll target path d
      ({ o.close next with pending := some r } :: rs.map ({ pending := some · }), d)
  | path, rs, d => (path ++ rs.map ({ pending := some · }), d)

end OpenState

def growForward (s : Size) (set : CharSet) : Size :=
  let target := s.states
  let start : List OpenState × Draft := ([{}], ⟨s.addStates 1, .ofSlots 10000⟩)
  let (path, d) := (set.ranges.flatMap sequences).foldl
    (fun (path, d) sequence => OpenState.follow target path sequence d) start
  (OpenState.closeAll target path d).2.size

/-! ## Backward -/

def Draft.before (d : Draft) (next : Nat) (range : ByteRange) : Nat × Draft :=
  let key := [next, range.first, range.last]
  match d.memory.find? key with
  | some state => (state, d)
  | none => (d.size.states, ⟨d.size.addStates 1, d.memory.put key d.size.states⟩)

def Draft.addSequence (stop : Nat) (d : Draft) (sequence : List ByteRange) : Draft :=
  let (_, d) := sequence.foldl (fun (next, d) range => d.before next range) (stop, d)
  { d with size := d.size.addBranches 1 }

/-- With the automaton of a class, read backward: a fork with one branch for each
sequence, and the state where they end. -/
def growBackward (s : Size) (set : CharSet) : Size :=
  ((set.ranges.flatMap sequences).foldl (Draft.addSequence (s.states + 1))
    ⟨s.addStates 2, .ofSlots 1000⟩).size

/-- With the automaton of a class. Basic characters are one byte each. -/
def growClass (backward : Bool) (s : Size) (set : CharSet) : Size :=
  if set.allBelow 0x80 then (s.addStates 1).addArrows set.ranges.length
  else if backward then growBackward s set
  else growForward s set

end Exemplar.Pattern.Automaton
