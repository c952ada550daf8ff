/-!
# The size of an automaton

An automaton is made of states, and of links from states that have several. It
may not take more than ten mebibytes.
-/

namespace Exemplar.Pattern.Automaton

/-- The size of an automaton, or of a part of it. -/
structure Size where
  states : Nat := 0
  linkBytes : Nat := 0
deriving DecidableEq, Repr, Inhabited

namespace Size

def stateBytes : Nat := 32

def arrowBytes : Nat := 8

def branchBytes : Nat := 4

def limit : Nat := 10485760

def bytes (s : Size) : Nat := stateBytes * s.states + s.linkBytes

def addStates (s : Size) (n : Nat) : Size := { s with states := s.states + n }

def addArrows (s : Size) (n : Nat) : Size := ⟨s.states + 1, s.linkBytes + arrowBytes * n⟩

def addBranches (s : Size) (n : Nat) : Size :=
  { s with linkBytes := s.linkBytes + branchBytes * n }

/-- The size, if an automaton may take as much. -/
def check (s : Size) : Option Size := if s.bytes ≤ limit then some s else none

end Size

end Exemplar.Pattern.Automaton
