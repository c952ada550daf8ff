/-!
# Reading from the front

A reader takes the characters that are still to come and gives what it has read
together with the rest. The rest is always an end of what the reader was given:
a reading is `Within` those characters. This is what the recursion of the
readers rests on, and it is shown by following their composition.
-/

namespace Exemplar

/-- What has been read from the front, and what is left. -/
abbrev Reading (ε α : Type) := Except ε (α × List Char)

namespace Reading

variable {ε α β : Type}

def andThen (r : Reading ε α) (f : α → List Char → Reading ε β) : Reading ε β :=
  match r with
  | .error e => .error e
  | .ok (a, rest) => f a rest

def convert (r : Reading ε α) (f : α → β) : Reading ε β :=
  r.andThen fun a rest => .ok (f a, rest)

/-- Make something else of what has been read, unless that is refused. -/
def refine (r : Reading ε α) (f : α → Except ε β) : Reading ε β :=
  r.andThen fun a rest =>
    match f a with
    | .error e => .error e
    | .ok b => .ok (b, rest)

/-- The rest is an end of `cs`. -/
def Within (r : Reading ε α) (cs : List Char) : Prop :=
  ∀ a rest, r = .ok (a, rest) → rest <:+ cs

namespace Within

variable {r : Reading ε α} {f : α → List Char → Reading ε β} {cs ds : List Char}

theorem error (e : ε) : Within (.error e : Reading ε α) cs := by
  intro a rest h
  cases h

theorem ok (a : α) {rest : List Char} (h : rest <:+ cs) :
    Within (.ok (a, rest) : Reading ε α) cs := by
  rintro _ _ h'
  cases h'
  exact h

theorem ite {p : Prop} [Decidable p] {r' : Reading ε α} (h : Within r cs) (h' : Within r' cs) :
    Within (if p then r else r') cs := by
  split
  · exact h
  · exact h'

theorem trans (h : Within r cs) (hcs : cs <:+ ds) : Within r ds :=
  fun a rest hr => (h a rest hr).trans hcs

theorem cons (h : Within r cs) (c : Char) : Within r (c :: cs) :=
  h.trans (List.suffix_cons c cs)

theorem andThen (h : Within r cs) (hf : ∀ a rest, rest <:+ cs → Within (f a rest) cs) :
    Within (r.andThen f) cs := by
  match r, h with
  | .error e, _ => exact error e
  | .ok (a, rest), h => exact hf a rest (h a rest rfl)

theorem convert (h : Within r cs) (g : α → β) : Within (r.convert g) cs :=
  h.andThen fun _ _ hr => ok _ hr

theorem refine (h : Within r cs) (g : α → Except ε β) : Within (r.refine g) cs := by
  refine h.andThen fun a rest hr => ?_
  split
  · exact error _
  · exact ok _ hr

end Within

/-- A run of characters of a kind ends where the text goes on with another character. -/
theorem takeWhile_dropWhile_append {p : Char → Bool} {xs ys : List Char}
    (hxs : ∀ c ∈ xs, p c = true) (hys : ∀ c ∈ ys.head?, p c = false) :
    (xs ++ ys).takeWhile p = xs ∧ (xs ++ ys).dropWhile p = ys := by
  rw [List.takeWhile_append_of_pos hxs, List.dropWhile_append_of_pos hxs]
  cases ys with
  | nil => simp
  | cons c ys => simp [hys c rfl]

end Reading

end Exemplar
