import Exemplar.Pattern.Automaton.Size

/-!
# Automata of choices between words

A choice between words is a tree: words that begin alike share what they begin
with. A word that ends inside of another one divides the branches at this place,
because the words in front of it are tried before it and the words behind it
after it.
-/

namespace Exemplar.Pattern.Automaton

/-- The branches at a place of a tree, the last first: a branch for a byte, or
the end of a word. -/
inductive WordTree where
  | leaf
  | ends (others : WordTree)
  | branch (byte : Nat) (child others : WordTree)

namespace WordTree

def isFinal : WordTree → Bool
  | .leaf => true
  | .ends others => others.isFinal
  | .branch _ _ _ => false

/-- Change what is behind a byte, as far back as the last end of a word. -/
def modify (byte : Nat) (f : WordTree → WordTree) : WordTree → WordTree
  | .branch b child others =>
    if b = byte then .branch b (f child) others else .branch b child (modify byte f others)
  | t => .branch byte (f .leaf) t

/-- Mark the end of a word, unless one ends here and none goes on. -/
def finish : WordTree → WordTree
  | .ends others => if others.isFinal then .ends others else .ends (.ends others)
  | t => .ends t

def insert : List Nat → WordTree → WordTree
  | [] => finish
  | byte :: word => modify byte (insert word)

/-- With the state for some branches between which no word ends, and a link to
it. -/
def growRun (s : Size) : (run : Nat) → Size
  | 0 => s
  | 1 => (s.addStates 1).addBranches 1
  | run => (s.addArrows run).addBranches 1

/-- With the states of a tree, where `run` branches since the last end of a word
have been seen already. Every place with branches has a fork. -/
def grow : WordTree → (run : Nat) → Size → Size
  | .leaf, run, s => (growRun s run).addStates 1
  | .ends others, run, s => grow others 0 ((growRun s run).addBranches 1)
  | .branch _ child others, run, s =>
    grow others (run + 1) (if child.isFinal then s else grow child 0 s)

/-- With the automaton of a choice between words: a tree, and the state where
all words end. -/
def growAll (s : Size) (words : List (List Nat)) : Size :=
  grow (words.foldl (fun t word => t.insert word) .leaf) 0 (s.addStates 1)

end WordTree

end Exemplar.Pattern.Automaton
