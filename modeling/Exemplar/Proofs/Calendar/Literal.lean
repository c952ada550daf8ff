import Exemplar.Proofs.Calendar.Reading

/-!
# Patterns for texts

Every text but those of quotes alone is what some pattern shows at all times: it is put
between quotes, with its own quotes written twice. A text that begins with quotes shifts
the pairs by one, as the quote that opens and the first one of the text make a pair, and so
do the ones that follow; the last of them is then alone and opens in their place. This is
also why there has to be another character: without one, the quote that is left over makes a
pair with the quote that should close, and the pattern shows a quote too many.

A text without letters and quotes needs no quotes around it.
-/

namespace Exemplar.Calendar

def doubled (text : List Char) : List Char :=
  text.flatMap fun c => if c = '\'' then [c, c] else [c]

/-- The pattern for a text: it is put between quotes, with its own quotes written twice. -/
def quoted (text : String) : String := String.ofList ('\'' :: (doubled text.toList ++ ['\'']))

theorem doubled_cons_quote (cs : List Char) :
    doubled ('\'' :: cs) = '\'' :: '\'' :: doubled cs := rfl

theorem doubled_cons {c : Char} (h : c ≠ '\'') (cs : List Char) :
    doubled (c :: cs) = c :: doubled cs := by
  simp [doubled, h]

namespace Mark

variable {text : List Char}

/-- Between quotes everything stands for itself, up to the quote that closes. -/
theorem ofText_doubled (text : List Char) :
    ofText true (doubled text ++ ['\'']) = (text.map .text, false) := by
  induction text with
  | nil => rfl
  | cons c cs ih =>
      by_cases hc : c = '\''
      · subst hc
        rw [doubled_cons_quote, List.cons_append, List.cons_append, ofText_twice, ih]
        rfl
      · rw [doubled_cons hc, List.cons_append, ofText_cons true hc, ih]
        rfl

theorem ofText_quoted (h : ∃ c ∈ text, c ≠ '\'') :
    ofText false ('\'' :: (doubled text ++ ['\''])) = (text.map .text, false) := by
  induction text with
  | nil => simp at h
  | cons c cs ih =>
      by_cases hc : c = '\''
      -- The quote that opens and the first one of the text make a pair. What is left is the
      -- pattern for the rest of the text, which the second one opens.
      · subst hc
        rw [doubled_cons_quote, List.cons_append, ofText_twice, List.cons_append,
          ih (by simpa using h)]
        rfl
      · have hhead : (doubled (c :: cs) ++ ['\'']).head? ≠ some '\'' := by
          rw [doubled_cons hc]
          simpa using hc
        rw [ofText_quote false hhead]
        exact ofText_doubled (c :: cs)

theorem ofText_literal (h : ∀ c ∈ text, c.isAlpha = false ∧ c ≠ '\'') :
    ofText false text = (text.map .text, false) := by
  induction text with
  | nil => rfl
  | cons c cs ih =>
      obtain ⟨⟨halpha, hc⟩, hcs⟩ := List.forall_mem_cons.1 h
      have hmark : ofChar false c = .text c := by simp [ofChar, halpha]
      rw [ofText_cons false hc, ih hcs, hmark]
      rfl

end Mark

theorem Piece.ofMarks_text (text : List Char) : ofMarks (text.map .text) = text.map .text := by
  induction text with
  | nil => rfl
  | cons c cs ih =>
      rw [List.map_cons, ofMarks_cons, ih]
      rfl

theorem Symbol.ofPieces_text (text : List Char) :
    ofPieces (text.map .text) = .ok (text.map .text) := by
  induction text with
  | nil => rfl
  | cons c cs ih =>
      rw [List.map_cons, ofPieces, ih]
      rfl

namespace DatePattern

theorem exists_parse_of_texts {text : String} {cs : List Char}
    (h : Mark.ofText false text.toList = (cs.map .text, false)) :
    ∃ p, parse text = .ok p ∧ ∀ m, p.format m = String.ofList cs := by
  refine ⟨⟨text, cs.map .text⟩, parse_eq_ok_iff.2 ⟨rfl, by rw [h], ?_⟩, fun m => ?_⟩
  · rw [h, Piece.ofMarks_text, Symbol.ofPieces_text]
  · simp [format, List.flatMap_map, Symbol.render]

/-- What is quoted shows itself at every moment, and so does what needs no quotes. -/
theorem format_literal (text : String) :
    ((∃ c ∈ text.toList, c ≠ '\'') →
      ∃ p, parse (quoted text) = .ok p ∧ ∀ m, p.format m = text) ∧
    ((∀ c ∈ text.toList, c.isAlpha = false ∧ c ≠ '\'') →
      ∃ p, parse text = .ok p ∧ ∀ m, p.format m = text) := by
  constructor
  · intro h
    have hread : Mark.ofText false (quoted text).toList = (text.toList.map .text, false) := by
      rw [quoted, String.toList_ofList, Mark.ofText_quoted h]
    simpa using exists_parse_of_texts hread
  · intro h
    simpa using exists_parse_of_texts (Mark.ofText_literal h)

theorem format_literal_of_percents :
    quoted "'5%' d''" = "'''5%'' d'''''" ∧
    (∃ p, parse (quoted "'5%' d''") = .ok p ∧ ∀ m, p.format m = "'5%' d''") ∧
    ∃ p, parse "(5%): 10\n" = .ok p ∧ ∀ m, p.format m = "(5%): 10\n" := by
  have hother : ∃ c ∈ "'5%' d''".toList, c ≠ '\'' := ⟨'5', by decide, by decide⟩
  have hplain : ∀ c ∈ "(5%): 10\n".toList, c.isAlpha = false ∧ c ≠ '\'' := by simp
  exact ⟨by decide, (format_literal _).1 hother, (format_literal _).2 hplain⟩

end DatePattern

end Exemplar.Calendar
