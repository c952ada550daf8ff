import Exemplar.Proofs.Calendar.Reading

/-!
# Letters outside of quotes

A pattern names a field by letters that are not between quotes. The reader of patterns
knows where it is by a flag that every quote switches, so whether a character is between
quotes can be said without the reader: it is not if there is an even number of quotes in
front of it. A quote that is written twice counts as two and leaves the rest as it is.

Every field of a pattern comes from a run of a letter outside of quotes.
-/

namespace Exemplar.Calendar

/-- A character stands somewhere in a pattern with an even number of quotes in front. -/
def Unquoted (text : List Char) (c : Char) : Prop :=
  ∃ i < text.length, text[i]? = some c ∧ (text.take i).count '\'' % 2 = 0

theorem any_range_iff_unquoted (text : List Char) (c : Char) :
    ((List.range text.length).any fun i =>
      text[i]? == some c && (text.take i).count '\'' % 2 == 0) = true ↔ Unquoted text c := by
  simp [Unquoted]

instance (text : List Char) (c : Char) : Decidable (Unquoted text c) :=
  decidable_of_iff _ (any_range_iff_unquoted text c)

theorem unquoted_append_cons {front : List Char} (h : front.count '\'' % 2 = 0) (c : Char)
    (behind : List Char) : Unquoted (front ++ c :: behind) c :=
  ⟨front.length, by simp, by simp, by simpa using h⟩

namespace Mark

theorem unquoted_of_letter_mem {text : List Char} {c : Char}
    (h : .letter c ∈ (ofText false text).1) : Unquoted text c := by
  obtain ⟨ms, ms', hms⟩ := List.append_of_mem h
  obtain ⟨front, behind, rfl, -, hfront, -⟩ := exists_split_of_letter hms
  have hclosed : (ofText false front).2 = false := by rw [hfront]
  exact unquoted_append_cons (ofText_closed_iff.1 hclosed) c behind

end Mark

namespace Piece

theorem letter_mem_of_run_mem {marks : List Mark} {c : Char} {n : Nat}
    (h : .run c n ∈ ofMarks marks) : .letter c ∈ marks := by
  obtain ⟨front, behind, rfl, hn, -, -⟩ := exists_split_of_run_mem h
  simp [Nat.ne_of_gt hn]

end Piece

theorem Symbol.exists_run_of_field_mem {ps : List Piece} {symbols : List Symbol} {f : Field}
    (h : ofPieces ps = .ok symbols) (hf : .field f ∈ symbols) :
    ∃ c n, .run c n ∈ ps ∧ Field.ofRun? c n = some f := by
  induction ps generalizing symbols with
  | nil =>
      cases h
      cases hf
  | cons p ps ih =>
      obtain ⟨first, rest, hp, hps, rfl⟩ := ofPieces_cons_eq_ok_iff.1 h
      rcases List.mem_cons.1 hf with rfl | hf
      · cases p with
        | text c => cases hp
        | run c n =>
            refine ⟨c, n, List.mem_cons_self, ?_⟩
            rw [ofPiece] at hp
            cases hrun : Field.ofRun? c n <;> simp_all
      · obtain ⟨c, n, hmem, hrun⟩ := ih hps hf
        exact ⟨c, n, .tail _ hmem, hrun⟩

namespace DatePattern

/-- A pattern has the fields that letters outside of quotes stand for, and no others. -/
theorem exists_unquoted_of_field_mem {text : String} {p : DatePattern} {f : Field}
    (h : parse text = .ok p) (hf : .field f ∈ p.symbols) :
    ∃ c n, Unquoted text.toList c ∧ Field.ofRun? c n = some f := by
  obtain ⟨-, -, hpieces⟩ := parse_eq_ok_iff.1 h
  obtain ⟨c, n, hmem, hrun⟩ := Symbol.exists_run_of_field_mem hpieces hf
  exact ⟨c, n, Mark.unquoted_of_letter_mem (Piece.letter_mem_of_run_mem hmem), hrun⟩

end DatePattern

end Exemplar.Calendar
