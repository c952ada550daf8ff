import Exemplar.Generator
import Exemplar.Proofs.Calendar.Reading

/-!
# Which texts are date patterns

Whether a text is a date pattern can be told from the text itself, without taking off its
quotes. A `FieldRun` is a run of a letter with an even number of quotes in front; the run
ends where the text goes on with another character, be it a quote. These are the runs that
the reader makes of the text and looks up: a quote never stands between two letters of one
run, because behind the quotes that close something there is what they have closed.

So a text is a pattern exactly if all of these runs name a field and the number of quotes is
even. Otherwise the first run that names none is reported, even if a quote is left open
behind it, and the open quote if there is no such run.
-/

namespace Exemplar.Calendar

/-- A run of a letter in a text that is not between quotes, with what is in front of it and
what is behind it. -/
structure FieldRun (text front : List Char) (c : Char) (n : Nat) (behind : List Char) : Prop where
  eq : text = front ++ List.replicate n c ++ behind
  isAlpha : c.isAlpha = true
  pos : 0 < n
  /-- The letter does not stand in front of the run once more. -/
  first : front.getLast? ≠ some c
  /-- The letter does not stand behind the run once more. -/
  last : behind.head? ≠ some c
  /-- There is an even number of quotes in front of the run. -/
  even : front.count '\'' % 2 = 0

def fieldLetters : List Char :=
  ['y', 'Y', 'M', 'L', 'd', 'D', 'E', 'u', 'a', 'H', 'h', 'm', 's', 'z', 'Z', 'S', 'k', 'K']

/-- A letter that stands some times in a row names a field. -/
def Supported (c : Char) (n : Nat) : Prop := c ∈ fieldLetters ∨ c = 'X' ∧ n ≤ 3

theorem Field.exists_ofRun?_iff {c : Char} {n : Nat} (hn : 0 < n) :
    (∃ f, ofRun? c n = some f) ↔ Supported c n := by
  fun_cases ofRun? c n <;> simp_all [Supported, fieldLetters]
  omega

def AllSupported (text : List Char) : Prop :=
  ∀ front c n behind, FieldRun text front c n behind → Supported c n

/-- A letter stands some times in a row and names no field, and nothing in front of it is
such a run. -/
def FirstUnsupported (text : List Char) (c : Char) (n : Nat) : Prop :=
  ∃ front behind, FieldRun text front c n behind ∧ ¬ Supported c n ∧
    ∀ front' c' n' behind', FieldRun text front' c' n' behind' → ¬ Supported c' n' →
      front.length ≤ front'.length

/-! ## Runs of the text and pieces of the pattern -/

namespace FieldRun

variable {text front behind : List Char} {c : Char} {n : Nat}

theorem closed (h : FieldRun text front c n behind) : (Mark.ofText false front).2 = false :=
  Mark.ofText_closed_iff.2 h.even

/-- A run is a piece of the pattern, between the pieces of what is in front of it and those
of what is behind it. -/
theorem ofMarks_ofText (h : FieldRun text front c n behind) :
    Piece.ofMarks (Mark.ofText false text).1 =
      Piece.ofMarks (Mark.ofText false front).1 ++
        .run c n :: Piece.ofMarks (Mark.ofText false behind).1 := by
  have hne : n ≠ 0 := Nat.ne_of_gt h.pos
  have hread : (Mark.ofText false text).1 = (Mark.ofText false front).1 ++
      (List.replicate n (.letter c) ++ (Mark.ofText false behind).1) := by
    have hborder : (List.replicate n c ++ behind).head? ≠ some '\'' := by
      simpa [List.head?_replicate, hne] using Mark.ne_quote_of_isAlpha h.isAlpha
    rw [h.eq, List.append_assoc, Mark.ofText_append fun _ => hborder, h.closed,
      Mark.ofText_letters h.isAlpha]
  have hfirst : ∀ d, (Mark.ofText false front).1.getLast? = some (.letter d) →
      (List.replicate n (Mark.letter c) ++ (Mark.ofText false behind).1).head? ≠
        some (.letter d) := by
    intro d hd hhead
    obtain rfl : c = d := by simpa [List.head?_replicate, hne] using hhead
    exact h.first ((Mark.getLast?_ofText_eq_letter_iff h.closed).1 hd).2
  have hlast : (Mark.ofText false behind).1.head? ≠ some (.letter c) := fun hhead =>
    h.last (Mark.head?_ofText_eq_letter_iff.1 hhead).2
  rw [hread, Piece.ofMarks_append hfirst, Piece.ofMarks_run h.pos hlast]

/-- A run is still there if the text goes on, unless it goes on with the letter of the run. -/
theorem append (h : FieldRun text front c n behind) {rest : List Char}
    (hrest : text.getLast? = some c → rest.head? ≠ some c) :
    FieldRun (text ++ rest) front c n (behind ++ rest) where
  eq := by rw [h.eq, List.append_assoc]
  isAlpha := h.isAlpha
  pos := h.pos
  first := h.first
  last := by
    cases behind with
    | nil =>
        refine hrest ?_
        rw [h.eq]
        simp [List.getLast?_append, List.getLast?_replicate, Nat.ne_of_gt h.pos]
    | cons d behind => exact h.last
  even := h.even

end FieldRun

theorem exists_replicate_of_ofText {text : List Char} {c : Char} {n : Nat} {ms : List Mark}
    (h : (Mark.ofText false text).1 = List.replicate n (.letter c) ++ ms) :
    ∃ behind, text = List.replicate n c ++ behind ∧ (Mark.ofText false behind).1 = ms := by
  induction n generalizing text with
  | zero => exact ⟨text, rfl, h⟩
  | succ n ih =>
      have hsplit : (Mark.ofText false text).1 =
          [] ++ .letter c :: (List.replicate n (.letter c) ++ ms) := h
      obtain ⟨front, rest, rfl, -, hfront, hrest⟩ := Mark.exists_split_of_letter hsplit
      obtain ⟨behind, rfl, hbehind⟩ := ih hrest
      rw [Mark.eq_nil_of_ofText hfront]
      exact ⟨behind, rfl, hbehind⟩

/-- The runs among the pieces of a pattern are runs of the text. -/
theorem exists_fieldRun_of_run_mem {text : List Char} {c : Char} {n : Nat}
    (h : .run c n ∈ Piece.ofMarks (Mark.ofText false text).1) :
    ∃ front behind, FieldRun text front c n behind := by
  obtain ⟨ms, ms', hms, hn, hfirst, hlast⟩ := Piece.exists_split_of_run_mem h
  obtain ⟨n, rfl⟩ : ∃ k, n = k + 1 := ⟨n - 1, by omega⟩
  rw [List.replicate_succ, List.append_assoc, List.cons_append] at hms
  obtain ⟨front, rest, rfl, hc, hfront, hrest⟩ := Mark.exists_split_of_letter hms
  obtain ⟨behind, rfl, rfl⟩ := exists_replicate_of_ofText hrest
  have hclosed : (Mark.ofText false front).2 = false := by rw [hfront]
  have hletter := Mark.getLast?_ofText_eq_letter_iff (c := c) hclosed
  rw [hfront] at hletter
  exact ⟨front, behind,
    { eq := by simp [List.replicate_succ]
      isAlpha := hc
      pos := hn
      first := fun hlast => hfirst (hletter.2 ⟨hc, hlast⟩)
      last := fun hhead => hlast (Mark.head?_ofText_eq_letter_iff.2 ⟨hc, hhead⟩)
      even := Mark.ofText_closed_iff.1 hclosed }⟩

/-! ## What is reported -/

namespace Symbol

theorem exists_ofPieces_iff {ps : List Piece} :
    (∃ symbols, ofPieces ps = .ok symbols) ↔ ∀ p ∈ ps, ∃ symbol, ofPiece p = .ok symbol := by
  induction ps with
  | nil => simp [ofPieces]
  | cons p ps ih =>
      rw [List.forall_mem_cons, ← ih]
      constructor
      · rintro ⟨symbols, h⟩
        obtain ⟨first, rest, hp, hps, -⟩ := ofPieces_cons_eq_ok_iff.1 h
        exact ⟨⟨first, hp⟩, rest, hps⟩
      · rintro ⟨⟨first, hp⟩, rest, hps⟩
        exact ⟨_, ofPieces_cons_eq_ok_iff.2 ⟨first, rest, hp, hps, rfl⟩⟩

theorem exists_ofPiece_run_iff {c : Char} {n : Nat} :
    (∃ symbol, ofPiece (.run c n) = .ok symbol) ↔ ∃ f, Field.ofRun? c n = some f := by
  rw [ofPiece]
  cases Field.ofRun? c n <;> simp

end Symbol

variable {text : List Char} {c : Char} {n : Nat}

theorem exists_symbols_iff :
    (∃ symbols, Symbol.ofPieces (Piece.ofMarks (Mark.ofText false text).1) = .ok symbols) ↔
      AllSupported text := by
  rw [Symbol.exists_ofPieces_iff]
  constructor
  · intro h front c n behind hrun
    have hmem : .run c n ∈ Piece.ofMarks (Mark.ofText false text).1 := by
      rw [hrun.ofMarks_ofText]
      exact List.mem_append_right _ List.mem_cons_self
    exact (Field.exists_ofRun?_iff hrun.pos).1 (Symbol.exists_ofPiece_run_iff.1 (h _ hmem))
  · intro h p hp
    cases p with
    | text c => exact ⟨.text c, rfl⟩
    | run c n =>
        obtain ⟨front, behind, hrun⟩ := exists_fieldRun_of_run_mem hp
        have hc := (Field.exists_ofRun?_iff hrun.pos).2 (h front c n behind hrun)
        exact Symbol.exists_ofPiece_run_iff.2 hc

namespace FirstUnsupported

theorem not_allSupported (h : FirstUnsupported text c n) : ¬ AllSupported text := by
  obtain ⟨front, behind, hrun, hc, -⟩ := h
  exact fun hall => hc (hall front c n behind hrun)

theorem ofPieces (h : FirstUnsupported text c n) :
    Symbol.ofPieces (Piece.ofMarks (Mark.ofText false text).1) = .error (.unsupported c n) := by
  obtain ⟨front, behind, hrun, hc, hfirst⟩ := h
  have hfront : AllSupported front := by
    intro front' c' n' behind' hrun'
    have hborder : front.getLast? = some c' → (List.replicate n c ++ behind).head? ≠ some c' := by
      intro hlast hhead
      obtain rfl : c = c' := by simpa [List.head?_replicate, Nat.ne_of_gt hrun.pos] using hhead
      exact hrun.first hlast
    have hrun'' := hrun'.append hborder
    rw [← List.append_assoc, ← hrun.eq] at hrun''
    refine Classical.byContradiction fun hc' => ?_
    have hle := hfirst _ _ _ _ hrun'' hc'
    have hpos := hrun'.pos
    rw [hrun'.eq, List.length_append, List.length_append, List.length_replicate] at hle
    omega
  obtain ⟨symbols, hsymbols⟩ := exists_symbols_iff.2 hfront
  have hnone : Field.ofRun? c n = none := by
    rw [← Field.exists_ofRun?_iff hrun.pos] at hc
    simpa [Option.eq_none_iff_forall_ne_some] using hc
  rw [hrun.ofMarks_ofText, Symbol.ofPieces_append, hsymbols, Symbol.ofPieces, Symbol.ofPiece,
    hnone]
  rfl

theorem readSymbols (h : FirstUnsupported text c n) :
    DatePattern.readSymbols text = .error (.unsupported c n) := by
  rw [DatePattern.readSymbols]
  dsimp only
  rw [h.ofPieces]

end FirstUnsupported

theorem AllSupported.not_firstUnsupported (h : AllSupported text) (c : Char) (n : Nat) :
    ¬ FirstUnsupported text c n :=
  fun hfirst => hfirst.not_allSupported h

/-- Among the runs that name no field there is a first one. -/
theorem FieldRun.exists_firstUnsupported {front behind : List Char}
    (h : FieldRun text front c n behind) (hc : ¬ Supported c n) :
    ∃ c n, FirstUnsupported text c n := by
  induction hlength : front.length using Nat.strongRecOn generalizing front c n behind with
  | ind k ih =>
      by_cases hfirst : ∃ front' c' n' behind', FieldRun text front' c' n' behind' ∧
          ¬ Supported c' n' ∧ front'.length < front.length
      · obtain ⟨front', c', n', behind', h', hc', hlt⟩ := hfirst
        exact ih _ (hlength ▸ hlt) h' hc' rfl
      · exact ⟨c, n, front, behind, h, hc, fun front' c' n' behind' h' hc' =>
          Nat.le_of_not_lt fun hlt => hfirst ⟨front', c', n', behind', h', hc', hlt⟩⟩

theorem exists_firstUnsupported (h : ¬ AllSupported text) : ∃ c n, FirstUnsupported text c n := by
  simp only [AllSupported, Classical.not_forall] at h
  obtain ⟨front, c, n, behind, hrun, hc⟩ := h
  exact hrun.exists_firstUnsupported hc

theorem AllSupported.exists_readSymbols (h : AllSupported text) :
    ∃ symbols, DatePattern.readSymbols text =
      if text.count '\'' % 2 = 0 then .ok symbols else .error .unterminatedQuote := by
  obtain ⟨symbols, hsymbols⟩ := exists_symbols_iff.2 h
  refine ⟨symbols, ?_⟩
  rw [DatePattern.readSymbols]
  dsimp only
  simp only [hsymbols, ← Mark.ofText_closed_iff]
  cases (Mark.ofText false text).2 <;> rfl

end Exemplar.Calendar

namespace Exemplar

open Calendar

namespace BuildError

theorem message_unterminatedQuote (text : String) :
    (BuildError.datePattern text .unterminatedQuote).message =
      "invalid date/time pattern " ++ tick text ++ ": unterminated quote" :=
  String.append_assoc

theorem message_unsupported (text : String) (c : Char) (n : Nat) :
    (BuildError.datePattern text (.unsupported c n)).message =
      "invalid date/time pattern " ++ tick text ++ ": unsupported field " ++
        tick (String.ofList (List.replicate n c)) := by
  have hjoin : ": " ++ "unsupported field \x60" = ": unsupported field " ++ "\x60" := rfl
  have hjoin' (s : String) :
      ": " ++ ("unsupported field \x60" ++ s) = ": unsupported field " ++ ("\x60" ++ s) := by
    rw [← String.append_assoc, hjoin, String.append_assoc]
  change "invalid date/time pattern " ++ tick text ++ ": " ++
    ("unsupported field \x60" ++ String.ofList (List.replicate n c) ++ "\x60") = _
  simp only [tick, String.append_assoc, hjoin']

end BuildError

open Generator (datePattern)

/-- A text is read as a date pattern in one of three ways. -/
theorem Generator.datePattern_cases (text : String) :
    (AllSupported text.toList ∧ text.toList.count '\'' % 2 = 0 ∧
      ∃ p, datePattern text = .ok p) ∨
    (AllSupported text.toList ∧ text.toList.count '\'' % 2 = 1 ∧
      datePattern text = .error (.refused (.datePattern text .unterminatedQuote))) ∨
    ∃ c n, FirstUnsupported text.toList c n ∧
      datePattern text = .error (.refused (.datePattern text (.unsupported c n))) := by
  by_cases h : AllSupported text.toList
  · obtain ⟨symbols, hread⟩ := h.exists_readSymbols
    rcases Nat.mod_two_eq_zero_or_one (text.toList.count '\'') with heven | hodd
    · rw [heven, if_pos rfl] at hread
      exact .inl ⟨h, heven, ⟨text, symbols⟩, by rw [datePattern, DatePattern.parse, hread]; rfl⟩
    · rw [hodd, if_neg Nat.one_ne_zero] at hread
      exact .inr (.inl ⟨h, hodd, by rw [datePattern, DatePattern.parse, hread]; rfl⟩)
  · obtain ⟨c, n, hfirst⟩ := exists_firstUnsupported h
    exact .inr (.inr ⟨c, n, hfirst, by
      rw [datePattern, DatePattern.parse, hfirst.readSymbols]
      rfl⟩)

/-- A text is a date pattern exactly if the number of its quotes is even and all runs of
letters outside of quotes name a field. Otherwise the refusal names the text, and says which
is the first run that names no field if there is one, and else that a quote is left open. -/
theorem datePattern_by_quote_parity (text : String) :
    ((∃ p, datePattern text = .ok p) ↔
      text.toList.count '\'' % 2 = 0 ∧ AllSupported text.toList) ∧
    (∀ f, datePattern text = .error f ↔
      (∃ c n, FirstUnsupported text.toList c n ∧
        f = .refused (.datePattern text (.unsupported c n))) ∨
      text.toList.count '\'' % 2 = 1 ∧ AllSupported text.toList ∧
        f = .refused (.datePattern text .unterminatedQuote)) ∧
    (∀ c n, (BuildError.datePattern text (.unsupported c n)).message =
      "invalid date/time pattern " ++ BuildError.tick text ++ ": unsupported field " ++
        BuildError.tick (String.ofList (List.replicate n c))) ∧
    (BuildError.datePattern text .unterminatedQuote).message =
      "invalid date/time pattern " ++ BuildError.tick text ++ ": unterminated quote" := by
  refine ⟨?_, ?_, BuildError.message_unsupported text, BuildError.message_unterminatedQuote text⟩
  -- Of the three cases each rules the others out, so every direction is one of them.
  · rcases Generator.datePattern_cases text with
      ⟨hall, heven, hok⟩ | ⟨-, hodd, herror⟩ | ⟨c, n, hfirst, herror⟩
    · exact iff_of_true hok ⟨heven, hall⟩
    · simp [herror, hodd]
    · simp [herror, hfirst.not_allSupported]
  · intro f
    rcases Generator.datePattern_cases text with
      ⟨hall, heven, p, hok⟩ | ⟨hall, hodd, herror⟩ | ⟨c, n, hfirst, herror⟩
    · simp [hok, heven, hall.not_firstUnsupported]
    · simp [herror, hodd, hall, hall.not_firstUnsupported, eq_comm]
    · rw [herror]
      constructor
      · rintro ⟨⟩
        exact .inl ⟨c, n, hfirst, rfl⟩
      · rintro (⟨c', n', hfirst', rfl⟩ | ⟨-, hall, -⟩)
        · cases hfirst.readSymbols.symm.trans hfirst'.readSymbols
          rfl
        · exact absurd hall hfirst.not_allSupported

-- A quote that is left open does not keep a run in front of it from being reported.
example : datePattern "yyyy-qq 'x" =
    .error (.refused (.datePattern "yyyy-qq 'x" (.unsupported 'q' 2))) := rfl

end Exemplar
