import Exemplar.Reading

/-!
# Blanks in a text

Blanks may stand between any two parts of a text, and a reader takes them off wherever they
may stand. Which characters count as blanks is a matter of the language that is read.
-/

namespace Exemplar

structure Blanks (isBlank : Char → Bool) where
  chars : List Char
  blank : ∀ c ∈ chars, isBlank c = true

namespace Blanks

variable {isBlank p : Char → Bool} {c : Char} {cs : List Char}

def none : Blanks isBlank := ⟨[], nofun⟩

def single (c : Char) (h : isBlank c = true) : Blanks isBlank :=
  ⟨[c], List.forall_mem_singleton.2 h⟩

def append (b b' : Blanks isBlank) : Blanks isBlank where
  chars := b.chars ++ b'.chars
  blank c hc := (List.mem_append.1 hc).elim (b.blank c) (b'.blank c)

def before (cs : List Char) : Blanks isBlank :=
  ⟨cs.takeWhile isBlank, List.all_eq_true.1 List.all_takeWhile⟩

theorem before_append_dropWhile (cs : List Char) :
    (before cs : Blanks isBlank).chars ++ cs.dropWhile isBlank = cs :=
  List.takeWhile_append_dropWhile

variable (b : Blanks isBlank)

theorem dropWhile_append (cs : List Char) :
    (b.chars ++ cs).dropWhile isBlank = cs.dropWhile isBlank :=
  List.dropWhile_append_of_pos b.blank

theorem dropWhile_chars : b.chars.dropWhile isBlank = [] :=
  by simpa using b.dropWhile_append []

theorem dropWhile_append_of_head? (h : ∀ c ∈ cs.head?, isBlank c = false) :
    (b.chars ++ cs).dropWhile isBlank = cs :=
  (Reading.takeWhile_dropWhile_append b.blank h).2

theorem dropWhile_append_cons (hc : isBlank c = false) (cs : List Char) :
    (b.chars ++ c :: cs).dropWhile isBlank = c :: cs :=
  b.dropWhile_append_of_head? (by simpa using hc)

/-- A text with blanks in front begins with a blank, or as it begins without them. -/
theorem head?_append (hp : ∀ c, isBlank c = true → p c = false)
    (h : ∀ c ∈ cs.head?, p c = false) : ∀ c ∈ (b.chars ++ cs).head?, p c = false := by
  intro c hc
  cases hb : b.chars with
  | nil =>
      rw [hb] at hc
      exact h c hc
  | cons d ds =>
      rw [hb] at hc
      obtain rfl : d = c := by simpa using hc
      exact hp d (b.blank d (hb ▸ List.mem_cons_self))

end Blanks

end Exemplar
