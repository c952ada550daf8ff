import Exemplar.Proofs.Json.Scalars

/-!
# Skipping a value

However a value is spelled, and however deeply it nests, `skip` finds its end: `skip_text`.

The reader keeps a stack of the containers that are open and goes on in a loop. So what is shown
of a value is that the reader comes to its end with the stack it had in front of it, and of the
items of a container that it comes to the end of the container with the container taken off.
The two follow each other down the value.
-/

namespace Exemplar.Json

open Exemplar.Reading

variable {kind : Kind} {containers : List Kind} {c : Char} {cs rest : List Char}

/-! ### Steps of the reader -/

theorem skipValue_of_dropBlanks (h : dropBlanks cs = c :: rest) :
    skipValue containers cs =
      if c = '[' then skipOn (.array :: containers) false rest
      else if c = '\x7b' then skipOn (.object :: containers) false rest
      else (skipScalar c rest).andThen fun _ rest => skipOn containers true rest := by
  rw [skipValue.eq_def]
  split
  · rename_i heq
    rw [h] at heq
    cases heq
  · rename_i heq
    rw [h] at heq
    cases heq
    refine ite_congr rfl (fun _ => rfl) fun _ => ite_congr rfl (fun _ => rfl) fun _ => ?_
    split <;> rename_i hscalar <;> rw [hscalar] <;> rfl

theorem skipOn_of_dropBlanks (behindValue : Bool) (h : dropBlanks cs = c :: rest) :
    skipOn (kind :: containers) behindValue cs =
      if behindValue && c = ',' then skipItem kind containers rest
      else if c = closing kind then skipOn containers true rest
      else if behindValue then failBehind (commaOrEnd kind) (c :: rest)
      else skipItem kind containers (c :: rest) := by
  rw [skipOn.eq_def]
  simp only
  split
  · rename_i heq
    rw [h] at heq
    cases heq
  · rename_i heq
    rw [h] at heq
    cases heq
    rfl

theorem skipValue_scalar (front : Blanks) (hblank : isBlank c = false) (harray : c ≠ '[')
    (hobject : c ≠ '\x7b') (h : skipScalar c cs = .ok ((), rest)) :
    skipValue containers (front.chars ++ c :: cs) = skipOn containers true rest := by
  rw [skipValue_of_dropBlanks (dropBlanks_append front hblank), if_neg harray, if_neg hobject, h]
  rfl

theorem skipValue_opening (front : Blanks) (kind : Kind) :
    skipValue containers (front.chars ++ opening kind :: rest) =
      skipOn (kind :: containers) false rest := by
  have hblank : isBlank (opening kind) = false := by cases kind <;> rfl
  rw [skipValue_of_dropBlanks (dropBlanks_append front hblank)]
  cases kind <;> rfl

theorem skipOn_closing (behindValue : Bool) (b : Blanks) :
    skipOn (kind :: containers) behindValue (b.chars ++ closing kind :: rest) =
      skipOn containers true rest := by
  have hblank : isBlank (closing kind) = false := by cases kind <;> rfl
  have hcomma : closing kind ≠ ',' := by cases kind <;> decide
  rw [skipOn_of_dropBlanks _ (dropBlanks_append b hblank)]
  simp [hcomma]

theorem skipOn_comma (b : Blanks) :
    skipOn (kind :: containers) true (b.chars ++ ',' :: rest) = skipItem kind containers rest := by
  rw [skipOn_of_dropBlanks _ (dropBlanks_append b rfl)]
  rfl

theorem skipOn_first (b : Blanks) (hblank : isBlank c = false) (hclosing : c ≠ closing kind) :
    skipOn (kind :: containers) false (b.chars ++ c :: rest) =
      skipItem kind containers (c :: rest) := by
  rw [skipOn_of_dropBlanks _ (dropBlanks_append b hblank)]
  simp [hclosing]

/-! ### Labels and scalars -/

def Label.gap : {kind : Kind} → Label kind → Blanks → Blanks
  | _, .key _ _ behindColon, _ => behindColon
  | _, .none, front => front

theorem skipKey_text (front behindKey : Blanks) (pieces : List Piece) (rest : List Char) :
    skipKey (front.chars ++ '"' :: (piecesText pieces ++ (behindKey.chars ++ ':' :: rest))) =
      .ok ((), rest) := by
  have hcolon : dropBlanks (behindKey.chars ++ ':' :: rest) = ':' :: rest :=
    dropBlanks_append behindKey rfl
  rw [skipKey.eq_def, dropBlanks_append front rfl]
  simp only [skipString_pieces, andThen, hcolon]

theorem skipItem_object (containers : List Kind) (cs : List Char) :
    skipItem .object containers cs =
      (skipKey cs).andThen fun _ rest => skipValue (.object :: containers) rest := by
  rw [skipItem.eq_def]
  simp only
  split <;> rename_i hkey <;> rw [hkey] <;> rfl

theorem skipItem_label (front : Blanks) (label : Label kind) (rest : List Char) :
    skipItem kind containers (front.chars ++ (label.text ++ rest)) =
      skipValue (kind :: containers) ((label.gap front).chars ++ rest) := by
  cases label with
  | key pieces behindKey behindColon =>
    simp only [skipItem_object, Label.text, List.cons_append, List.append_assoc, skipKey_text]
    rfl
  | none =>
    rw [skipItem.eq_def]
    rfl

theorem skipScalar_of_number (h : c = '-' ∨ c.isDigit = true) (cs : List Char) :
    skipScalar c cs = (readNumeral .number (c :: cs)).convert fun _ => () := by
  rcases h with rfl | hdigit
  · rfl
  · have hsign : c ≠ '-' := by
      rintro rfl
      cases hdigit
    rw [skipScalar.eq_def, readNumeral.eq_def]
    split
    · cases hdigit
    · cases hdigit
    · cases hdigit
    · cases hdigit
    · rw [if_neg hsign, if_pos hdigit]
      split
      · rename_i heq
        cases heq
        exact absurd rfl hsign
      · rfl

theorem skipValue_number (front : Blanks) (n : SpelledNumeral) (hrest : Delimited rest) :
    skipValue containers (front.chars ++ (n.text ++ rest)) = skipOn containers true rest := by
  obtain ⟨c, cs, hcons, hc⟩ := n.exists_text_eq_cons
  have hread := n.readNumeral_append .number hrest
  rw [hcons] at hread ⊢
  obtain ⟨hblank, harray, -, hobject⟩ := head_of_number hc
  refine skipValue_scalar front hblank harray hobject ?_
  rw [skipScalar_of_number hc]
  exact congrArg (·.convert fun _ => ()) hread

/-! ### Values -/

/-- A value begins with a character that is neither a blank nor the end of a list. -/
theorem SpelledValue.exists_text_eq_cons (v : SpelledValue) :
    ∃ c cs, v.text = c :: cs ∧ isBlank c = false ∧ c ≠ ']' := by
  cases v with
  | null => exact ⟨'n', _, rfl, rfl, by decide⟩
  | bool b => cases b <;> exact ⟨_, _, rfl, rfl, by decide⟩
  | number n =>
    obtain ⟨c, cs, hcons, hc⟩ := n.exists_text_eq_cons
    obtain ⟨hblank, -, hclosing, -⟩ := head_of_number hc
    exact ⟨c, cs, hcons, hblank, hclosing⟩
  | string pieces => exact ⟨'"', _, rfl, rfl, by decide⟩
  | container kind inner items => cases kind <;> exact ⟨_, _, rfl, rfl, by decide⟩

theorem skipOn_item (b : Blanks) (label : Label kind) (v : SpelledValue) (rest : List Char) :
    skipOn (kind :: containers) false (b.chars ++ (label.text ++ (v.text ++ rest))) =
      skipItem kind containers (label.text ++ (v.text ++ rest)) := by
  cases label with
  | key pieces behindKey behindColon => exact skipOn_first b rfl (by decide)
  | none =>
    obtain ⟨c, cs, hcons, hblank, hclosing⟩ := v.exists_text_eq_cons
    rw [Label.text, List.nil_append, hcons]
    exact skipOn_first b hblank hclosing

/-- Whether or not it is the first one, the next item is found behind any blanks. -/
theorem exists_skipOn_eq_skipItem (containers : List Kind) (first : Bool) (b front : Blanks)
    (label : Label kind) (v : SpelledValue) (rest : List Char) :
    ∃ front' : Blanks,
      skipOn (kind :: containers) (!first)
          (b.chars ++ (commaText first ++ (front.chars ++ (label.text ++ (v.text ++ rest))))) =
        skipItem kind containers (front'.chars ++ (label.text ++ (v.text ++ rest))) := by
  cases first with
  | true =>
    have hfirst : skipOn (kind :: containers) false
        ((b.append front).chars ++ (label.text ++ (v.text ++ rest))) =
          skipItem kind containers (label.text ++ (v.text ++ rest)) :=
      skipOn_item (b.append front) label v rest
    rw [Blanks.append, List.append_assoc] at hfirst
    exact ⟨.none, hfirst⟩
  | false => exact ⟨front, skipOn_comma b⟩

theorem SpelledItems.delimited_text (items : SpelledItems kind) (rest : List Char) :
    Delimited (items.text false ++ closing kind :: rest) := by
  cases items with
  | nil => cases kind <;> exact delimited_cons (by decide)
  | cons front label value behind items => exact delimited_cons (by decide)

mutual

/-- A value is skipped with the containers around it left as they are. -/
theorem skipValue_text (containers : List Kind) (front : Blanks) (v : SpelledValue)
    {rest : List Char} (hrest : Delimited rest) :
    skipValue containers (front.chars ++ (v.text ++ rest)) = skipOn containers true rest := by
  match v with
  | .null =>
    exact skipValue_scalar front rfl (by decide) (by decide) (readWord_append ['u', 'l', 'l'] rest)
  | .bool true =>
    exact skipValue_scalar front rfl (by decide) (by decide) (readWord_append ['r', 'u', 'e'] rest)
  | .bool false =>
    exact skipValue_scalar front rfl (by decide) (by decide)
      (readWord_append ['a', 'l', 's', 'e'] rest)
  | .number n => exact skipValue_number front n hrest
  | .string pieces =>
    exact skipValue_scalar front rfl (by decide) (by decide) (skipString_pieces pieces rest)
  | .container kind inner items =>
    rw [SpelledValue.text, List.cons_append, skipValue_opening, List.append_assoc,
      List.append_assoc]
    exact skipOn_text containers inner true items rest

/-- The items of a container are skipped, and the container with them. -/
theorem skipOn_text (containers : List Kind) (b : Blanks) {kind : Kind} (first : Bool)
    (items : SpelledItems kind) (rest : List Char) :
    skipOn (kind :: containers) (!first)
        (b.chars ++ (items.text first ++ (closing kind :: rest))) =
      skipOn containers true rest := by
  match items with
  | .nil => exact skipOn_closing (!first) b
  | .cons front label value behind items =>
    -- Behind the value the reader is back in this container, so the other items are next.
    have hrest := (items.delimited_text rest).blanks behind
    obtain ⟨front', hitem⟩ := exists_skipOn_eq_skipItem containers first b front label value
      (behind.chars ++ (items.text false ++ closing kind :: rest))
    simp only [SpelledItems.text, List.append_assoc]
    rw [hitem, skipItem_label, skipValue_text _ _ value hrest]
    exact skipOn_text containers behind false items rest

end

theorem skip_text (front : Blanks) (v : SpelledValue) (hrest : Delimited rest) :
    skip (front.chars ++ (v.text ++ rest)) = .ok ((), rest) := by
  rw [skip, skipValue_text [] front v hrest, skipOn.eq_def]

end Exemplar.Json
