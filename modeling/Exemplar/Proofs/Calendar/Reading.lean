import Exemplar.Calendar.DatePattern

/-!
# Reading a pattern part by part

A pattern is read in three steps: quotes are taken off, equal letters are put into runs, and
runs are looked up. Each step goes through its input from the front, so the reading of two
texts in a row is that of the one and then that of the other, as long as nothing goes on
across the border. For quotes this is a pair of which one half stands on either side, for
runs it is a letter that stands on both, and symbols do not depend on their neighbours at
all: `Mark.ofText_append`, `Piece.ofMarks_append`, `Symbol.ofPieces_append`. What a pattern
shows is put together in the same way: `DatePattern.format_append`.

The equations of `Mark.ofText` have a case for every way in which a text can begin, a pair of
quotes, a lone quote or another character, and `Mark.reading_induction` is the induction
with these cases. Marks are taken off by runs in the same way: `Piece.runs_induction`.
-/

namespace Exemplar.Calendar

namespace Mark

variable {quoted : Bool} {text text' : List Char} {c d : Char}

theorem ofChar_eq_letter_iff :
    ofChar quoted c = .letter d ↔ quoted = false ∧ c.isAlpha = true ∧ c = d := by
  rw [ofChar]
  split
  · next h =>
      rw [Bool.and_eq_true, Bool.not_eq_true'] at h
      simp [h]
  · next h =>
      constructor
      · nofun
      · rintro ⟨rfl, halpha, -⟩
        exact absurd (by simp [halpha]) h

/-! ## The front of a text -/

@[simp] theorem ofText_nil (quoted : Bool) : ofText quoted [] = ([], quoted) := rfl

theorem ofText_twice (quoted : Bool) (cs : List Char) :
    ofText quoted ('\'' :: '\'' :: cs) =
      (.text '\'' :: (ofText quoted cs).1, (ofText quoted cs).2) := by
  rw [ofText, if_pos rfl, if_pos rfl]

theorem ofText_quote (quoted : Bool) {cs : List Char} (h : cs.head? ≠ some '\'') :
    ofText quoted ('\'' :: cs) = ofText (!quoted) cs := by
  cases cs with
  | nil => rfl
  | cons c cs =>
      have hc : c ≠ '\'' := fun hc => h (congrArg some hc)
      rw [ofText, if_pos rfl, if_neg hc]

theorem ofText_cons (quoted : Bool) (h : c ≠ '\'') (cs : List Char) :
    ofText quoted (c :: cs) = (ofChar quoted c :: (ofText quoted cs).1, (ofText quoted cs).2) := by
  cases cs with
  | nil => simp [ofText]
  | cons d cs => rw [ofText, if_neg h]

theorem ne_quote_of_isAlpha (h : c.isAlpha = true) : c ≠ '\'' := by
  rintro rfl
  cases h

theorem ofText_letter (h : c.isAlpha = true) (cs : List Char) :
    ofText false (c :: cs) = (.letter c :: (ofText false cs).1, (ofText false cs).2) := by
  rw [ofText_cons false (ne_quote_of_isAlpha h), ofChar_eq_letter_iff.2 ⟨rfl, h, rfl⟩]

/-- What holds of the empty text, and of a text if it holds of what stands behind the first
thing that is read, holds of all texts. -/
@[elab_as_elim]
theorem reading_induction {motive : Bool → List Char → Prop}
    (nil : ∀ quoted, motive quoted [])
    (twice : ∀ quoted cs, motive quoted cs → motive quoted ('\'' :: '\'' :: cs))
    (quote : ∀ quoted cs, cs.head? ≠ some '\'' → motive (!quoted) cs → motive quoted ('\'' :: cs))
    (char : ∀ quoted c cs, c ≠ '\'' → motive quoted cs → motive quoted (c :: cs))
    (quoted : Bool) (text : List Char) : motive quoted text := by
  fun_induction ofText quoted text with
  | case1 quoted => exact nil quoted
  | case2 quoted => exact quote quoted [] nofun (nil _)
  | case3 quoted cs _ _ _ ih => exact twice quoted cs ih
  | case4 quoted d cs hd ih => exact quote quoted (d :: cs) (by simpa using hd) ih
  | case5 quoted c d cs hc _ _ _ ih => exact char quoted c (d :: cs) hc ih
  | case6 quoted c hc => exact char quoted c [] hc (nil quoted)

/-! ## Texts in a row -/

/-- A text that stands behind another one is read in the state in which that one ends,
unless a pair of quotes stands across the border. -/
theorem ofText_append (h : text.getLast? = some '\'' → text'.head? ≠ some '\'') :
    ofText quoted (text ++ text') =
      ((ofText quoted text).1 ++ (ofText (ofText quoted text).2 text').1,
        (ofText (ofText quoted text).2 text').2) := by
  induction quoted, text using reading_induction with
  | nil quoted => rfl
  | twice quoted cs ih =>
      have hlast : cs.getLast? = some '\'' → text'.head? ≠ some '\'' := fun hlast =>
        h (by simp [List.getLast?_cons, hlast])
      rw [List.cons_append, List.cons_append, ofText_twice, ofText_twice, ih hlast]
      rfl
  | quote quoted cs hcs ih =>
      have hlast : cs.getLast? = some '\'' → text'.head? ≠ some '\'' := fun hlast =>
        h (by simp [List.getLast?_cons, hlast])
      have hhead : (cs ++ text').head? ≠ some '\'' := by
        cases cs with
        | nil => exact h rfl
        | cons c cs => exact hcs
      rw [List.cons_append, ofText_quote quoted hhead, ofText_quote quoted hcs, ih hlast]
  | char quoted c cs hc ih =>
      have hlast : cs.getLast? = some '\'' → text'.head? ≠ some '\'' := fun hlast =>
        h (by simp [List.getLast?_cons, hlast])
      rw [List.cons_append, ofText_cons quoted hc, ofText_cons quoted hc, ih hlast]
      rfl

/-- The state behind a text is a matter of how many quotes it has. -/
theorem toNat_ofText (quoted : Bool) (text : List Char) :
    (ofText quoted text).2.toNat = (text.count '\'' + quoted.toNat) % 2 := by
  induction quoted, text using reading_induction with
  | nil quoted => cases quoted <;> rfl
  | twice quoted cs ih =>
      rw [ofText_twice, ih]
      simp only [List.count_cons_self]
      omega
  | quote quoted cs hcs ih =>
      rw [ofText_quote quoted hcs, ih, List.count_cons_self]
      cases quoted with
      | false => rfl
      | true =>
          rw [Bool.not_true, Bool.toNat_false, Bool.toNat_true]
          omega
  | char quoted c cs hc ih => rw [ofText_cons quoted hc, ih, List.count_cons_of_ne hc]

theorem ofText_closed_iff : (ofText false text).2 = false ↔ text.count '\'' % 2 = 0 := by
  rw [← Bool.toNat_eq_zero, toNat_ofText, Bool.toNat_false, Nat.add_zero]

theorem ofText_letters (h : c.isAlpha = true) (n : Nat) (cs : List Char) :
    ofText false (List.replicate n c ++ cs) =
      (List.replicate n (.letter c) ++ (ofText false cs).1, (ofText false cs).2) := by
  induction n with
  | zero => rfl
  | succ n ih =>
      rw [List.replicate_succ, List.cons_append, ofText_letter h, ih, List.replicate_succ]
      rfl

/-! ## Letters -/

theorem eq_nil_of_ofText (h : ofText quoted text = ([], quoted)) : text = [] := by
  cases text with
  | nil => rfl
  | cons c cs =>
      by_cases hc : c = '\''
      · subst hc
        cases cs with
        | nil => cases quoted <;> cases h
        | cons d cs =>
            by_cases hd : d = '\''
            · subst hd
              rw [ofText_twice] at h
              cases h
            · rw [ofText_quote quoted (by simpa using hd), ofText_cons _ hd] at h
              cases h
      · rw [ofText_cons quoted hc] at h
        cases h

/-- A letter that names a field stands in the text, and what is before it and what is behind
it are what stands before it and behind it there. -/
theorem exists_split_of_letter {ms ms' : List Mark}
    (h : (ofText quoted text).1 = ms ++ .letter c :: ms') :
    ∃ front behind, text = front ++ c :: behind ∧ c.isAlpha = true ∧
      ofText quoted front = (ms, false) ∧ (ofText false behind).1 = ms' := by
  induction quoted, text using reading_induction generalizing ms with
  | nil quoted => simp at h
  | twice quoted cs ih =>
      rw [ofText_twice] at h
      cases ms with
      | nil => simp at h
      | cons m ms =>
          obtain ⟨rfl, hrest⟩ := List.cons.inj h
          obtain ⟨front, behind, rfl, hc, hfront, hbehind⟩ := ih hrest
          refine ⟨'\'' :: '\'' :: front, behind, rfl, hc, ?_, hbehind⟩
          rw [ofText_twice, hfront]
  | quote quoted cs hcs ih =>
      rw [ofText_quote quoted hcs] at h
      obtain ⟨front, behind, rfl, hc, hfront, hbehind⟩ := ih h
      refine ⟨'\'' :: front, behind, rfl, hc, ?_, hbehind⟩
      -- The quote in front stays a single one: what follows it begins as the text did.
      have hhead : front.head? ≠ some '\'' := by
        cases front with
        | nil => nofun
        | cons d front => exact hcs
      rw [ofText_quote quoted hhead, hfront]
  | char quoted d cs hd ih =>
      rw [ofText_cons quoted hd] at h
      cases ms with
      | nil =>
          obtain ⟨hletter, hrest⟩ := List.cons.inj h
          obtain ⟨rfl, hc, rfl⟩ := ofChar_eq_letter_iff.1 hletter
          exact ⟨[], cs, rfl, hc, rfl, hrest⟩
      | cons m ms =>
          obtain ⟨rfl, hrest⟩ := List.cons.inj h
          obtain ⟨front, behind, rfl, hc, hfront, hbehind⟩ := ih hrest
          refine ⟨d :: front, behind, rfl, hc, ?_, hbehind⟩
          rw [ofText_cons quoted hd, hfront]

theorem head?_ofText_eq_letter_iff :
    (ofText false text).1.head? = some (.letter c) ↔ c.isAlpha = true ∧ text.head? = some c := by
  constructor
  · intro h
    obtain ⟨ms, hms⟩ := List.head?_eq_some_iff.1 h
    have hsplit : (ofText false text).1 = [] ++ .letter c :: ms := hms
    obtain ⟨front, behind, rfl, hc, hfront, -⟩ := exists_split_of_letter hsplit
    rw [eq_nil_of_ofText hfront]
    exact ⟨hc, rfl⟩
  · rintro ⟨hc, h⟩
    obtain ⟨cs, rfl⟩ := List.head?_eq_some_iff.1 h
    rw [ofText_letter hc]
    rfl

theorem getLast?_ofText_eq_letter_iff (hclosed : (ofText quoted text).2 = false) :
    (ofText quoted text).1.getLast? = some (.letter c) ↔
      c.isAlpha = true ∧ text.getLast? = some c := by
  constructor
  · intro h
    obtain ⟨ms, hms⟩ := List.getLast?_eq_some_iff.1 h
    obtain ⟨front, behind, rfl, hc, hfront, hbehind⟩ := exists_split_of_letter hms
    rw [ofText_append (by simp [ne_quote_of_isAlpha hc]), hfront, ofText_letter hc] at hclosed
    rw [eq_nil_of_ofText (Prod.ext hbehind hclosed)]
    exact ⟨hc, by simp⟩
  · rintro ⟨hc, h⟩
    obtain ⟨cs, rfl⟩ := List.getLast?_eq_some_iff.1 h
    rw [ofText_append (by simp [ne_quote_of_isAlpha hc]),
      ofText_cons _ (ne_quote_of_isAlpha hc)] at hclosed ⊢
    rw [ofText_nil] at hclosed ⊢
    have hmark : ofChar (ofText quoted cs).2 c = .letter c :=
      ofChar_eq_letter_iff.2 ⟨hclosed, hc, rfl⟩
    simp [hmark]

end Mark

namespace Piece

variable {marks marks' : List Mark} {c : Char} {n : Nat}

theorem ofMarks_cons (mark : Mark) (marks : List Mark) :
    ofMarks (mark :: marks) = prepend mark (ofMarks marks) := rfl

theorem exists_prepend_letter (c : Char) (ps : List Piece) :
    ∃ n qs, prepend (.letter c) ps = .run c (n + 1) :: qs := by
  cases ps with
  | nil => exact ⟨0, [], rfl⟩
  | cons p ps =>
      cases p with
      | text d => exact ⟨0, .text d :: ps, rfl⟩
      | run d n =>
          by_cases hd : c = d
          · subst hd
            exact ⟨n, ps, if_pos rfl⟩
          · exact ⟨0, .run d n :: ps, if_neg hd⟩

theorem ofMarks_letter (h : marks.head? ≠ some (.letter c)) :
    ofMarks (.letter c :: marks) = .run c 1 :: ofMarks marks := by
  cases marks with
  | nil => rfl
  | cons mark marks =>
      cases mark with
      | text d => rfl
      | letter d =>
          have hd : c ≠ d := by
            rintro rfl
            exact h rfl
          obtain ⟨n, qs, hqs⟩ := exists_prepend_letter d (ofMarks marks)
          rw [ofMarks_cons, ofMarks_cons, hqs, prepend, if_neg hd]

theorem ofMarks_run (hn : 0 < n) (h : marks.head? ≠ some (.letter c)) :
    ofMarks (List.replicate n (.letter c) ++ marks) = .run c n :: ofMarks marks := by
  induction n with
  | zero => exact absurd hn (Nat.lt_irrefl 0)
  | succ n ih =>
      cases n with
      | zero => exact ofMarks_letter h
      | succ n =>
          rw [List.replicate_succ, List.cons_append, ofMarks_cons, ih n.succ_pos, prepend,
            if_pos rfl]

theorem exists_replicate_append (mark : Mark) (marks : List Mark) :
    ∃ n rest, marks = List.replicate n mark ++ rest ∧ rest.head? ≠ some mark := by
  induction marks with
  | nil => exact ⟨0, [], rfl, nofun⟩
  | cons m marks ih =>
      by_cases hm : m = mark
      · obtain ⟨n, rest, rfl, hrest⟩ := ih
        exact ⟨n + 1, rest, by rw [hm, List.replicate_succ]; rfl, hrest⟩
      · exact ⟨0, m :: marks, rfl, by simpa using hm⟩

/-- What holds of no marks, and of marks if it holds of those behind the first run or the
first character, holds of all marks. -/
@[elab_as_elim]
theorem runs_induction {motive : List Mark → Prop} (nil : motive [])
    (text : ∀ c marks, motive marks → motive (.text c :: marks))
    (run : ∀ c n marks, 0 < n → marks.head? ≠ some (.letter c) → motive marks →
      motive (List.replicate n (.letter c) ++ marks))
    (marks : List Mark) : motive marks := by
  match marks with
  | [] => exact nil
  | .text c :: marks => exact text c marks (runs_induction nil text run marks)
  | .letter c :: marks =>
      obtain ⟨n, rest, hrest, hhead⟩ := exists_replicate_append (.letter c) marks
      have hlength : rest.length ≤ marks.length := by simp [hrest]
      rw [hrest]
      exact run c (n + 1) rest n.succ_pos hhead (runs_induction nil text run rest)
termination_by marks.length

/-- Marks in a row make up the pieces of the ones and then those of the others, unless a run
goes on across the border. -/
theorem ofMarks_append
    (h : ∀ c, marks.getLast? = some (.letter c) → marks'.head? ≠ some (.letter c)) :
    ofMarks (marks ++ marks') = ofMarks marks ++ ofMarks marks' := by
  induction marks using runs_induction with
  | nil => rfl
  | text c marks ih =>
      have hlast : ∀ d, marks.getLast? = some (.letter d) → marks'.head? ≠ some (.letter d) :=
        fun d hd => h d (by simp [List.getLast?_cons, hd])
      rw [List.cons_append, ofMarks_cons, ih hlast]
      rfl
  | run c n marks hn hhead ih =>
      have hlast : ∀ d, marks.getLast? = some (.letter d) → marks'.head? ≠ some (.letter d) :=
        fun d hd => h d (by simp [List.getLast?_append, hd])
      have hborder : (marks ++ marks').head? ≠ some (.letter c) := by
        cases marks with
        | nil => exact h c (by simp [List.getLast?_replicate, Nat.ne_of_gt hn])
        | cons mark marks => exact hhead
      rw [List.append_assoc, ofMarks_run hn hborder, ih hlast, ofMarks_run hn hhead]
      rfl

/-- A run is a run in the marks: they have its letter as often as it says, and neither
before nor behind once more. -/
theorem exists_split_of_run_mem (h : .run c n ∈ ofMarks marks) :
    ∃ front behind, marks = front ++ List.replicate n (.letter c) ++ behind ∧ 0 < n ∧
      front.getLast? ≠ some (.letter c) ∧ behind.head? ≠ some (.letter c) := by
  induction marks using runs_induction with
  | nil => cases h
  | text d marks ih =>
      have hmem : .run c n ∈ ofMarks marks := by simpa [ofMarks_cons, prepend] using h
      obtain ⟨front, behind, rfl, hn, hfirst, hlast⟩ := ih hmem
      refine ⟨.text d :: front, behind, rfl, hn, ?_, hlast⟩
      cases hfront : front.getLast? <;> simp_all [List.getLast?_cons]
  | run d k marks hk hhead ih =>
      rw [ofMarks_run hk hhead] at h
      rcases List.mem_cons.1 h with heq | hmem
      · cases heq
        exact ⟨[], marks, rfl, hk, nofun, hhead⟩
      · obtain ⟨front, behind, rfl, hn, hfirst, hlast⟩ := ih hmem
        refine ⟨List.replicate k (.letter d) ++ front, behind, by simp, hn, ?_, hlast⟩
        cases front with
        | nil =>
            have hd : d ≠ c := by
              rintro rfl
              simp [List.head?_replicate, Nat.ne_of_gt hn] at hhead
            simp [List.getLast?_replicate, Nat.ne_of_gt hk, hd]
        | cons m front => simpa [List.getLast?_append, List.getLast?_cons] using hfirst

end Piece

namespace Symbol

variable {p : Piece} {ps : List Piece}

theorem ofPieces_cons_eq_ok_iff {symbols : List Symbol} :
    ofPieces (p :: ps) = .ok symbols ↔
      ∃ first rest, ofPiece p = .ok first ∧ ofPieces ps = .ok rest ∧ first :: rest = symbols := by
  rw [ofPieces]
  cases ofPiece p <;> cases ofPieces ps <;> simp [Except.map]

theorem ofPieces_append (ps ps' : List Piece) :
    ofPieces (ps ++ ps') =
      (ofPieces ps).bind fun symbols => (ofPieces ps').map (symbols ++ ·) := by
  induction ps with
  | nil => cases h : ofPieces ps' <;> simp [ofPieces, Except.bind, Except.map, h]
  | cons p ps ih =>
      rw [List.cons_append, ofPieces, ofPieces]
      cases ofPiece p with
      | error e => rfl
      | ok first =>
          dsimp only
          rw [ih]
          cases ofPieces ps with
          | error e => rfl
          | ok symbols => cases ofPieces ps' <;> rfl

end Symbol

namespace DatePattern

variable {text text' : String} {p q : DatePattern}

theorem parse_eq_ok_iff :
    parse text = .ok p ↔
      p.source = text ∧ (Mark.ofText false text.toList).2 = false ∧
        Symbol.ofPieces (Piece.ofMarks (Mark.ofText false text.toList).1) = .ok p.symbols := by
  obtain ⟨source, symbols⟩ := p
  rw [parse, readSymbols]
  generalize Mark.ofText false text.toList = read
  obtain ⟨marks, quoted⟩ := read
  dsimp only
  cases Symbol.ofPieces (Piece.ofMarks marks) with
  | error e => simp [Except.map]
  | ok symbols' => cases quoted <;> simp [Except.map, eq_comm (a := text) (b := source)]

/-- Patterns in a row are a pattern, which shows what the one shows and then what the other
shows, unless the same letter or a quote stands on both sides of the border. -/
theorem format_append (hp : parse text = .ok p) (hq : parse text' = .ok q)
    (h : ∀ c, text.toList.getLast? = some c → text'.toList.head? = some c →
      c.isAlpha = false ∧ c ≠ '\'') :
    ∃ r, parse (text ++ text') = .ok r ∧ ∀ m, r.format m = p.format m ++ q.format m := by
  obtain ⟨-, hclosed, hpieces⟩ := parse_eq_ok_iff.1 hp
  obtain ⟨-, hclosed', hpieces'⟩ := parse_eq_ok_iff.1 hq
  have hquote : text.toList.getLast? = some '\'' → text'.toList.head? ≠ some '\'' :=
    fun hlast hhead => (h '\'' hlast hhead).2 rfl
  have hread : Mark.ofText false (text ++ text').toList =
      ((Mark.ofText false text.toList).1 ++ (Mark.ofText false text'.toList).1, false) := by
    rw [String.toList_append, Mark.ofText_append hquote, hclosed, hclosed']
  have hrun : ∀ c, (Mark.ofText false text.toList).1.getLast? = some (.letter c) →
      (Mark.ofText false text'.toList).1.head? ≠ some (.letter c) := by
    intro c hlast hhead
    obtain ⟨hc, hlast⟩ := (Mark.getLast?_ofText_eq_letter_iff hclosed).1 hlast
    obtain ⟨-, hhead⟩ := Mark.head?_ofText_eq_letter_iff.1 hhead
    exact absurd hc (by simp [(h c hlast hhead).1])
  refine ⟨⟨text ++ text', p.symbols ++ q.symbols⟩, parse_eq_ok_iff.2 ⟨rfl, ?_, ?_⟩, fun m => ?_⟩
  · rw [hread]
  · rw [hread, Piece.ofMarks_append hrun, Symbol.ofPieces_append, hpieces, hpieces']
    rfl
  · simp [format]

/-- The letter on both sides of the border is between quotes on one of them, and it is a
quote that stands next to the letter of the other side. -/
theorem format_append_of_quoted_letter :
    ∃ p q r : DatePattern, parse "S MM'M'" = .ok p ∧ parse "MMM%S" = .ok q ∧
      parse "S MM'M'MMM%S" = .ok r ∧ ∀ m, r.format m = p.format m ++ q.format m := by
  obtain ⟨p, hp⟩ : ∃ p, parse "S MM'M'" = .ok p := ⟨_, rfl⟩
  obtain ⟨q, hq⟩ : ∃ q, parse "MMM%S" = .ok q := ⟨_, rfl⟩
  have hborder : ∀ c, "S MM'M'".toList.getLast? = some c → "MMM%S".toList.head? = some c →
      c.isAlpha = false ∧ c ≠ '\'' := by
    intro c hlast hhead
    exact absurd (hlast.trans hhead.symm) (by decide)
  obtain ⟨r, hr, hformat⟩ := format_append hp hq hborder
  exact ⟨p, q, r, hp, hq, hr, hformat⟩

end DatePattern

end Exemplar.Calendar
