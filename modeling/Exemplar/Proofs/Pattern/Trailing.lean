import Exemplar.Pattern.Whole

/-!
# Reading in front of more

A pattern for whole texts is put into a group, so it is read in front of a closing
parenthesis and a dollar sign. Whatever is read of the pattern by itself is read
there as well: a reader that succeeds never looks further than it has to, or does
not mind the parenthesis. `Trails cs ds` says that `ds` is `cs` with the ending
behind it, and `Carries` that what one reading has got the other one has got too,
with such rests.

There is one exception. A comment at the very end of a verbose pattern goes on into
the ending and swallows it. Then nothing is left in either case, and nothing will
be read any more.
-/

namespace Exemplar.Pattern

/-- What stands behind a pattern that is put between the ends of the text. -/
def ending : List Char := [')', '$']

/-- The second text is the first one with the ending behind it, unless both have
been read and the ending has been swallowed. -/
inductive Trails : List Char → List Char → Prop
  | more (cs : List Char) : Trails cs (cs ++ ending)
  | swallowed : Trails [] []

namespace Trails

variable {cs ds : List Char} {c : Char}

theorem cons_inv (h : Trails (c :: cs) ds) : ∃ ds', ds = c :: ds' ∧ Trails cs ds' := by
  cases h
  exact ⟨cs ++ ending, rfl, .more cs⟩

theorem nil_inv (h : Trails [] ds) : ds = [] ∨ ds = ending := by
  cases h with
  | more => exact .inr rfl
  | swallowed => exact .inl rfl

/-- A reader that looks at one character sees the same one twice, or sees none the
first time. -/
@[elab_as_elim]
theorem uncons {motive : List Char → List Char → Prop} (h : Trails cs ds)
    (nil : ∀ ds, motive [] ds)
    (cons : ∀ c cs ds, Trails (c :: cs) (c :: ds) → Trails cs ds → motive (c :: cs) (c :: ds)) :
    motive cs ds := by
  cases cs with
  | nil => exact nil ds
  | cons c cs =>
      obtain ⟨ds, rfl, ht⟩ := h.cons_inv
      exact cons c cs ds h ht

theorem dropBlank (comment : Bool) (cs : List Char) :
    Trails (dropBlank comment cs) (dropBlank comment (cs ++ ending)) := by
  induction cs generalizing comment with
  | nil =>
      cases comment with
      | true => exact .swallowed
      | false => exact .more []
  | cons c cs ih =>
      cases comment with
      | true => exact ih _
      | false =>
          rw [List.cons_append, Pattern.dropBlank, Pattern.dropBlank]
          split
          · exact ih false
          · split
            · exact ih true
            · exact .more (c :: cs)

theorem skip (h : Trails cs ds) (verbose : Bool) : Trails (skip verbose cs) (skip verbose ds) := by
  cases h with
  | more =>
      cases verbose with
      | true => exact dropBlank false cs
      | false => exact .more cs
  | swallowed => cases verbose <;> exact .swallowed

theorem dropWhile (h : Trails cs ds) :
    Trails (cs.dropWhile Unicode.isBlank) (ds.dropWhile Unicode.isBlank) := by
  cases h with
  | swallowed => exact .swallowed
  | more =>
      induction cs with
      | nil => exact .more []
      | cons c cs ih =>
          rw [List.cons_append, List.dropWhile_cons, List.dropWhile_cons]
          split
          · exact ih
          · exact .more (c :: cs)

theorem drop (h : Trails cs ds) {n : Nat} (hn : n ≤ cs.length) :
    Trails (cs.drop n) (ds.drop n) := by
  cases h with
  | more =>
      rw [List.drop_append_of_le_length hn]
      exact .more _
  | swallowed =>
      rw [List.drop_nil]
      exact .swallowed

theorem isPrefixOf_eq (h : Trails cs ds) {mark : List Char} (hm : ')' ∉ mark) :
    mark.isPrefixOf ds = mark.isPrefixOf cs := by
  induction mark generalizing cs ds with
  | nil => simp
  | cons m mark ih =>
      rw [List.mem_cons, not_or] at hm
      cases cs with
      | nil =>
          rcases h.nil_inv with rfl | rfl
          · rfl
          · simp [ending, List.isPrefixOf, Ne.symm hm.1]
      | cons c cs =>
          obtain ⟨ds, rfl, ht⟩ := h.cons_inv
          rw [List.isPrefixOf, List.isPrefixOf, ih ht hm.2]

end Trails

/-- Whatever the first reading has got the second one has got too, in front of the
ending. -/
def Carries {α : Type} (r r' : Reading PatternError α) : Prop :=
  ∀ a rest, r = .ok (a, rest) → ∃ rest', r' = .ok (a, rest') ∧ Trails rest rest'

namespace Carries

variable {α β : Type} {r r' s s' : Reading PatternError α} {cs ds : List Char}

theorem error (e : PatternError) (r' : Reading PatternError α) : Carries (.error e) r' := nofun

theorem ok (a : α) (h : Trails cs ds) :
    Carries (.ok (a, cs) : Reading PatternError α) (.ok (a, ds)) := by
  rintro _ _ ⟨⟩
  exact ⟨ds, rfl, h⟩

theorem of_within (h : r.Within []) : Carries r r := by
  intro a rest hr
  obtain rfl := List.suffix_nil.1 (h a rest hr)
  exact ⟨[], hr, .swallowed⟩

theorem andThen {f f' : α → List Char → Reading PatternError β} (h : Carries r r')
    (hf : ∀ a cs ds, Trails cs ds → Carries (f a cs) (f' a ds)) :
    Carries (r.andThen f) (r'.andThen f') := by
  intro b rest hb
  cases r with
  | error e => cases hb
  | ok x =>
      obtain ⟨a, cs⟩ := x
      obtain ⟨ds, rfl, ht⟩ := h a cs rfl
      exact hf a cs ds ht b rest hb

theorem convert (h : Carries r r') (f : α → β) : Carries (r.convert f) (r'.convert f) :=
  h.andThen fun a _ _ ht => ok (f a) ht

theorem refine (h : Carries r r') (f : α → Except PatternError β) :
    Carries (r.refine f) (r'.refine f) := by
  refine h.andThen fun a _ _ ht => ?_
  cases f a with
  | error e => exact error e _
  | ok b => exact ok b ht

theorem ite {p : Prop} [Decidable p] (h : Carries r r') (h' : Carries s s') :
    Carries (if p then r else s) (if p then r' else s') := by
  split
  · exact h
  · exact h'

end Carries

/-- What cannot fail has read the same twice, the second time in front of the ending. -/
def Keeps {α : Type} (x y : α × List Char) : Prop := y.1 = x.1 ∧ Trails x.2 y.2

@[elab_as_elim]
theorem Keeps.elim {α : Type} {motive : α × List Char → α × List Char → Prop}
    {x y : α × List Char} (h : Keeps x y)
    (pair : ∀ a cs ds, Trails cs ds → motive (a, cs) (a, ds)) : motive x y := by
  obtain ⟨a, cs⟩ := x
  obtain ⟨b, ds⟩ := y
  obtain ⟨rfl, ht⟩ := h
  exact pair b cs ds ht

/-! ## Escape sequences -/

variable {cs ds : List Char}

theorem readHexDigits_carries (verbose : Bool) (n : Nat) (h : Trails cs ds) :
    Carries (readHexDigits verbose n cs) (readHexDigits verbose n ds) := by
  induction n generalizing cs ds with
  | zero => exact .ok [] h
  | succ n ih =>
      refine h.uncons (fun _ => .error _ _) fun c cs ds _ ht => ?_
      exact .ite ((ih (ht.skip verbose)).convert _) (.error _ _)

theorem readHexBraced_carries (verbose : Bool) (h : Trails cs ds) :
    Carries (readHexBraced verbose cs) (readHexBraced verbose ds) := by
  fun_induction readHexBraced verbose cs generalizing ds with
  | case1 => exact .error _ _
  | case2 cs =>
      obtain ⟨ds, rfl, ht⟩ := h.cons_inv
      rw [readHexBraced, if_pos rfl]
      exact .ok [] (ht.skip verbose)
  | case3 c cs hc hd ih =>
      obtain ⟨ds, rfl, ht⟩ := h.cons_inv
      rw [readHexBraced, if_neg hc, if_pos hd]
      exact (ih (ht.skip verbose)).convert _
  | case4 => exact .error _ _

theorem readHex_carries (verbose : Bool) (width : Nat) (h : Trails cs ds) :
    Carries (readHex verbose width cs) (readHex verbose width ds) := by
  unfold readHex
  refine (h.skip verbose).uncons (fun _ => .error _ _) fun c rest rest' hs ht => ?_
  refine .ite ?_ ?_
  · exact (readHexBraced_carries verbose (ht.skip verbose)).refine _
  · exact (readHexDigits_carries verbose width hs).refine _

theorem readBraced_carries (verbose : Bool) (h : Trails cs ds) :
    Carries (readBraced verbose cs) (readBraced verbose ds) := by
  fun_induction readBraced verbose cs generalizing ds with
  | case1 => exact .error _ _
  | case2 cs =>
      obtain ⟨ds, rfl, ht⟩ := h.cons_inv
      rw [readBraced, if_pos rfl]
      exact .ok [] ht
  | case3 c cs hc ih =>
      obtain ⟨ds, rfl, ht⟩ := h.cons_inv
      rw [readBraced, if_neg hc]
      exact (ih (ht.skip verbose)).convert _

theorem readProperty_carries (verbose : Bool) (h : Trails cs ds) :
    Carries (readProperty verbose cs) (readProperty verbose ds) := by
  unfold readProperty
  refine (h.skip verbose).uncons (fun _ => .error _ _) fun c rest rest' _ ht => ?_
  refine .ite ?_ (.ite (.error _ _) (.ok _ ht))
  exact (readBraced_carries verbose (ht.skip verbose)).convert _

theorem readBoundaryName_keeps (verbose : Bool) (h : Trails cs ds) :
    Keeps (readBoundaryName verbose cs) (readBoundaryName verbose ds) := by
  fun_induction readBoundaryName verbose cs generalizing ds with
  | case1 =>
      rcases h.nil_inv with rfl | rfl
      · rw [readBoundaryName]
        exact ⟨rfl, h⟩
      · rw [ending, readBoundaryName, if_neg (by decide)]
        exact ⟨rfl, h⟩
  | case2 c cs hc name rest hn ih =>
      obtain ⟨ds, rfl, ht⟩ := h.cons_inv
      obtain ⟨hname, hrest⟩ := ih (ht.skip verbose)
      rw [hn] at hname hrest
      rw [readBoundaryName, if_pos hc]
      exact ⟨congrArg (c :: ·) hname, hrest⟩
  | case3 c cs hc =>
      obtain ⟨ds, rfl, ht⟩ := h.cons_inv
      rw [readBoundaryName, if_neg hc]
      exact ⟨rfl, h⟩

theorem readBoundary_carries (verbose : Bool) (h : Trails cs ds) :
    Carries (readBoundary verbose cs) (readBoundary verbose ds) := by
  unfold readBoundary
  split
  · next cs =>
    obtain ⟨ds, rfl, ht⟩ := h.cons_inv
    simp only
    refine (ht.skip verbose).uncons (fun _ => .error _ _) fun c rest rest' hs _ => ?_
    refine .ite ?_ (.ok _ h)
    refine (readBoundaryName_keeps verbose hs).elim fun name rest rest' hrest => ?_
    split
    · next heq =>
      cases heq
      obtain ⟨rest', rfl, hr⟩ := hrest.cons_inv
      simp only
      cases boundaryOfName? name with
      | none => exact .error _ _
      | some a => exact .ok a hr
    · exact .error _ _
  · next hbrace =>
    split
    · cases cs with
      | nil => cases h
      | cons c cs =>
          cases h
          exact absurd rfl (hbrace cs)
    · exact .ok _ h

theorem readEscape_carries (verbose : Bool) (h : Trails cs ds) :
    Carries (readEscape verbose cs) (readEscape verbose ds) := by
  refine h.uncons (fun _ => .error _ _) fun c cs ds _ ht => ?_
  refine .ite (.error _ _) <| .ite ((readHex_carries _ _ ht).convert _) <|
    .ite ((readHex_carries _ _ ht).convert _) <| .ite ((readHex_carries _ _ ht).convert _) <|
    .ite ((readProperty_carries _ ht).convert _) <|
    .ite ((readProperty_carries _ ht).convert _) <|
    .ite ((readBoundary_carries _ ht).convert _) ?_
  cases shortEscape? c with
  | none => exact .error _ _
  | some primitive => exact .ok primitive ht

/-! ## Classes -/

theorem readHyphens_keeps (verbose : Bool) (l : ClassLevel) (h : Trails cs ds) :
    Keeps (readHyphens verbose l cs) (readHyphens verbose l ds) := by
  fun_induction readHyphens verbose l cs generalizing ds with
  | case1 l =>
      rcases h.nil_inv with rfl | rfl
      · rw [readHyphens]
        exact ⟨rfl, h⟩
      · rw [ending, readHyphens, if_neg (by decide)]
        exact ⟨rfl, h⟩
  | case2 l cs ih =>
      obtain ⟨ds, rfl, ht⟩ := h.cons_inv
      rw [readHyphens, if_pos rfl]
      exact ih (ht.skip verbose)
  | case3 l c cs hc =>
      obtain ⟨ds, rfl, ht⟩ := h.cons_inv
      rw [readHyphens, if_neg hc]
      exact ⟨rfl, h⟩

theorem readClassStart_carries (verbose : Bool) (h : Trails cs ds) :
    Carries (readClassStart verbose cs) (readClassStart verbose ds) := by
  unfold readClassStart
  refine (h.skip verbose).uncons (fun _ => .error _ _) fun c rest rest' hs ht => ?_
  have hhyphens : Keeps
      (readHyphens verbose { negated := c = '^' } (if c = '^' then skip verbose rest else c :: rest))
      (readHyphens verbose { negated := c = '^' }
        (if c = '^' then skip verbose rest' else c :: rest')) := by
    refine readHyphens_keeps verbose _ ?_
    split
    · exact ht.skip verbose
    · exact hs
  have hlevel : ∀ xs, (if c = '^' then (({ negated := true } : ClassLevel), skip verbose xs)
      else ({ negated := false }, c :: xs)) =
      ({ negated := c = '^' }, if c = '^' then skip verbose xs else c :: xs) := by
    intro xs
    by_cases hc : c = '^' <;> simp [hc]
  simp only [hlevel]
  refine hhyphens.elim fun level rest rest' hrest => ?_
  refine hrest.uncons (fun _ => .error _ _) fun c rest rest' hrest ht => ?_
  refine .ite ?_ (.ok _ hrest)
  -- A closing bracket that comes first does not close the class.
  exact (ht.skip verbose).uncons (fun _ => .error _ _) fun d more more' hs _ => .ok _ hs

theorem cutAt?_append (cs : List Char) :
    cutAt? [':'] (cs ++ ending) = (cutAt? [':'] cs).map fun (before, behind) =>
      (before, behind ++ ending) := by
  induction cs with
  | nil => rfl
  | cons c cs ih =>
      rw [List.cons_append, cutAt?, cutAt?, ih]
      by_cases hc : c = ':'
      · subst hc
        simp [List.isPrefixOf]
      · have hmark : ∀ es, [':'].isPrefixOf (c :: es) = false := by
          intro es
          simp [List.isPrefixOf, Ne.symm hc]
        rw [hmark, hmark]
        simp [Function.comp_def]

/-- The name of a class, behind the sign of negation or its absence: it goes up to a
colon. -/
def className? (negated : Bool) (cs : List Char) : Option (ClassItem × List Char) :=
  match cutAt? [':'] cs with
  | some (name, ']' :: rest) =>
    (NamedClass.ofName? (String.ofList name)).map fun kind => (.named kind negated, rest)
  | _ => none

theorem namedClass?_caret (cs : List Char) :
    namedClass? (':' :: '^' :: cs) = className? true cs := rfl

theorem namedClass?_colon {cs : List Char} (h : ∀ rest, cs ≠ '^' :: rest) :
    namedClass? (':' :: cs) = className? false cs := by
  rw [namedClass?]
  · rfl
  · exact h

theorem className?_append (negated : Bool) (cs : List Char) :
    className? negated (cs ++ ending) =
      (className? negated cs).map fun (item, rest) => (item, rest ++ ending) := by
  rw [className?, className?, cutAt?_append]
  cases cutAt? [':'] cs with
  | none => rfl
  | some r =>
      obtain ⟨name, behind⟩ := r
      cases behind with
      | nil => rfl
      | cons e behind =>
          by_cases he : e = ']'
          · subst he
            simp [Function.comp_def]
          · simp [he]

theorem namedClass?_append (cs : List Char) :
    namedClass? (cs ++ ending) = (namedClass? cs).map fun (item, rest) => (item, rest ++ ending) := by
  cases cs with
  | nil => rfl
  | cons c cs =>
      by_cases hc : c = ':'
      · subst hc
        by_cases hcaret : ∃ rest, cs = '^' :: rest
        · obtain ⟨rest, rfl⟩ := hcaret
          rw [List.cons_append, List.cons_append, namedClass?_caret, namedClass?_caret]
          exact className?_append true rest
        · rw [not_exists] at hcaret
          have hending : ∀ rest, cs ++ ending ≠ '^' :: rest := by
            intro rest heq
            cases cs with
            | nil => cases heq
            | cons d cs => exact hcaret cs (by rw [(List.cons.inj heq).1])
          rw [List.cons_append, namedClass?_colon hcaret, namedClass?_colon hending]
          exact className?_append false cs
      · simp [namedClass?, hc]

theorem readClassPrimitive_carries (verbose : Bool) (c : Char) (h : Trails cs ds) :
    Carries (readClassPrimitive verbose c cs) (readClassPrimitive verbose c ds) :=
  .ite (readEscape_carries verbose h) (.ok _ h)

theorem dropBlank_of_peekBlank {comment : Bool} (h : peekBlank comment cs = none) :
    dropBlank false cs = [] ∧ (comment = true → dropBlank true cs = []) := by
  induction cs generalizing comment with
  | nil => exact ⟨rfl, fun _ => rfl⟩
  | cons c cs ih =>
      rw [peekBlank] at h
      by_cases hc : Unicode.isBlank c
      · rw [if_pos hc] at h
        obtain ⟨hfalse, htrue⟩ := ih h
        refine ⟨by rw [dropBlank, if_pos hc, hfalse], ?_⟩
        rintro rfl
        rw [dropBlank]
        by_cases hline : c = '\n'
        · simpa [hline] using hfalse
        · simpa [hline] using htrue rfl
      · rw [if_neg hc] at h
        cases comment with
        | true => simp at h
        | false =>
            by_cases hsign : c = '#'
            · rw [if_pos (by simp [hsign])] at h
              refine ⟨?_, fun hfalse => absurd hfalse Bool.false_ne_true⟩
              rw [dropBlank, if_neg hc, if_pos hsign, (ih h).2 rfl]
            · simp [hsign] at h

theorem skip_of_peek_eq_none {verbose : Bool} (h : peek verbose cs = none) :
    skip verbose cs = [] := by
  cases verbose with
  | false => simpa [peek, skip] using h
  | true =>
      rw [peek, if_pos rfl] at h
      rw [skip, if_pos rfl, (dropBlank_of_peekBlank h).1]

theorem peekBlank_append {comment : Bool} {c : Char} (hc : peekBlank comment cs = some c)
    (behind : List Char) : peekBlank comment (cs ++ behind) = some c := by
  induction cs generalizing comment with
  | nil => cases hc
  | cons d cs ih =>
      rw [peekBlank] at hc
      rw [List.cons_append, peekBlank]
      split at hc
      · rw [if_pos ‹_›]
        exact ih hc
      · rw [if_neg ‹_›]
        split at hc
        · rw [if_pos ‹_›]
          exact ih hc
        · rw [if_neg ‹_›]
          exact hc

theorem peek_trails {verbose : Bool} {c : Char} (h : Trails cs ds) (hc : peek verbose cs = some c) :
    peek verbose ds = some c := by
  cases h with
  | more =>
      cases verbose with
      | true => exact peekBlank_append hc ending
      | false =>
          cases cs with
          | nil => cases hc
          | cons d cs => exact hc
  | swallowed => exact hc

theorem readClassPart_carries (verbose : Bool) (c : Char) (h : Trails cs ds) :
    Carries (readClassPart verbose c cs) (readClassPart verbose c ds) := by
  refine (readClassPrimitive_carries verbose c h).andThen fun first rest rest' hrest => ?_
  refine (hrest.skip verbose).uncons (fun _ => .error _ _) fun d behind behind' hs ht => ?_
  simp only
  cases hp : peek verbose behind with
  | none =>
      rw [skip_of_peek_eq_none hp]
      by_cases hd : d = '-'
      · simp only [hd]
        exact .error _ _
      · rw [if_neg (by simp [hd]), if_neg (by simp [hd])]
        cases first.toItem with
        | error e => exact .error e _
        | ok item => exact .ok item hs
  | some e =>
      rw [peek_trails ht hp]
      refine .ite ?_ ?_
      · exact (ht.skip verbose).uncons (fun _ => .error _ _) fun e rest rest' _ hr =>
          (readClassPrimitive_carries verbose e hr).refine _
      · cases first.toItem with
        | error e => exact .error e _
        | ok item => exact .ok item hs

theorem setOperation?_append (c : Char) (cs : List Char) :
    setOperation? c (cs ++ ending) =
      (setOperation? c cs).map fun (kind, rest) => (kind, rest ++ ending) := by
  cases cs with
  | nil =>
      by_cases hc : c = ')'
      · subst hc
        rfl
      · simp [ending, setOperation?, hc]
  | cons d cs =>
      rw [List.cons_append, setOperation?, setOperation?]
      split
      · simp [Function.comp_def]
      · rfl

theorem stepClass_carries (verbose : Bool) (level : ClassLevel) (outer : List ClassLevel)
    (c : Char) (h : Trails cs ds) :
    Carries (stepClass verbose level outer c cs) (stepClass verbose level outer c ds) := by
  cases h with
  | swallowed => exact .of_within (stepClass_within verbose level outer c [])
  | more =>
      refine .ite ?_ (.ite ?_ ?_)
      · rw [namedClass?_append]
        cases namedClass? cs with
        | none => exact (readClassStart_carries verbose (.more cs)).convert _
        | some r => exact .ok _ (.more r.2)
      · cases outer with
        | nil => exact .ok _ (.more cs)
        | cons l outer => exact .ok _ (.more cs)
      · rw [setOperation?_append]
        cases setOperation? c cs with
        | none => exact (readClassPart_carries verbose c (.more cs)).convert _
        | some r => exact .ok _ (.more r.2)

theorem readClassRest_of_step {verbose : Bool} {level : ClassLevel} {outer : List ClassLevel}
    {c : Char} {rest rest' : List Char} {s : ClassStep} (hc : skip verbose cs = c :: rest)
    (hs : stepClass verbose level outer c rest = .ok (s, rest')) :
    readClassRest verbose level outer cs =
      match s with
      | .done negated set => .ok ((negated, set), rest')
      | .more level outer => readClassRest verbose level outer rest' := by
  rw [readClassRest]
  split
  · next hnil => simp [hnil] at hc
  · next hcons =>
    obtain ⟨rfl, rfl⟩ := List.cons.inj (hcons.symm.trans hc)
    split
    · next he => simp [he] at hs
    · next he =>
      cases he.symm.trans hs
      rfl
    · next he =>
      cases he.symm.trans hs
      rfl

theorem readClassRest_carries (verbose : Bool) (level : ClassLevel) (outer : List ClassLevel)
    (h : Trails cs ds) :
    Carries (readClassRest verbose level outer cs) (readClassRest verbose level outer ds) := by
  fun_induction readClassRest verbose level outer cs generalizing ds with
  | case1 => exact .error _ _
  | case2 => exact .error _ _
  | case3 level outer cs c rest hc negated set rest' hs =>
      have ht := h.skip verbose
      rw [hc] at ht
      obtain ⟨more, hd, ht⟩ := ht.cons_inv
      obtain ⟨more', hs', hr⟩ := stepClass_carries verbose level outer c ht _ _ hs
      rw [readClassRest_of_step hd hs']
      exact .ok _ hr
  | case4 level outer cs c rest hc level' outer' rest' hs ih =>
      have ht := h.skip verbose
      rw [hc] at ht
      obtain ⟨more, hd, ht⟩ := ht.cons_inv
      obtain ⟨more', hs', hr⟩ := stepClass_carries verbose level outer c ht _ _ hs
      rw [readClassRest_of_step hd hs']
      exact ih hr

theorem readClass_carries (verbose : Bool) (h : Trails cs ds) :
    Carries (readClass verbose cs) (readClass verbose ds) :=
  (readClassStart_carries verbose h).andThen fun level _ _ ht =>
    readClassRest_carries verbose level [] ht

/-! ## Repetitions -/

theorem readDigits_keeps (verbose : Bool) (h : Trails cs ds) :
    Keeps (readDigits verbose cs) (readDigits verbose ds) := by
  fun_induction readDigits verbose cs generalizing ds with
  | case1 =>
      rcases h.nil_inv with rfl | rfl
      · rw [readDigits]
        exact ⟨rfl, h⟩
      · rw [ending, readDigits, if_neg (by decide)]
        exact ⟨rfl, h⟩
  | case2 c cs hc digits rest hd ih =>
      obtain ⟨ds, rfl, ht⟩ := h.cons_inv
      obtain ⟨hdigits, hrest⟩ := ih (ht.skip verbose)
      rw [hd] at hdigits hrest
      rw [readDigits, if_pos hc]
      exact ⟨congrArg (c :: ·) hdigits, hrest⟩
  | case3 c cs hc =>
      obtain ⟨ds, rfl, ht⟩ := h.cons_inv
      rw [readDigits, if_neg hc]
      exact ⟨rfl, h⟩

theorem readBound_keeps (verbose : Bool) (h : Trails cs ds) :
    Keeps (readBound verbose cs) (readBound verbose ds) := by
  obtain ⟨hdigits, hrest⟩ := readDigits_keeps verbose h.dropWhile
  exact ⟨congrArg decimalBound hdigits, hrest.dropWhile⟩

theorem readBounds_carries (verbose : Bool) (h : Trails cs ds) :
    Carries (readBounds verbose cs) (readBounds verbose ds) := by
  unfold readBounds
  refine (h.skip verbose).uncons (fun _ => .error _ _) fun c more more' hs _ => ?_
  simp only
  refine (readBound_keeps verbose hs).elim fun first rest rest' hrest => ?_
  refine hrest.uncons (fun _ => .error _ _) fun d rest rest' hrest ht => ?_
  refine .ite ?_ ?_
  · refine (ht.skip verbose).uncons (fun _ => .error _ _) fun e rest rest' hb _ => ?_
    cases first with
    | error err => exact .error err _
    | ok min =>
        refine .ite (.ok _ hb) ?_
        refine (readBound_keeps verbose hb).elim fun second last last' hlast => ?_
        cases second with
        | error err => exact .error err _
        | ok max => exact .ok _ hlast
  · cases first with
    | error err => exact .error err _
    | ok n => exact .ok _ hrest

theorem readLazy_keeps (h : Trails cs ds) : Keeps (readLazy cs) (readLazy ds) := by
  cases cs with
  | nil =>
      rcases h.nil_inv with rfl | rfl
      · exact ⟨rfl, h⟩
      · exact ⟨rfl, h⟩
  | cons c cs =>
      obtain ⟨ds, rfl, ht⟩ := h.cons_inv
      by_cases hc : c = '?'
      · subst hc
        exact ⟨rfl, ht⟩
      · have hgreedy : ∀ es, readLazy (c :: es) = (true, c :: es) := by simp [readLazy, hc]
        rw [hgreedy, hgreedy]
        exact ⟨rfl, h⟩

theorem readCount_carries (verbose : Bool) (h : Trails cs ds) :
    Carries (readCount verbose cs) (readCount verbose ds) := by
  refine (readBounds_carries verbose h).andThen fun (min, max) rest rest' hrest => ?_
  simp only
  split
  · next rest =>
    obtain ⟨rest', rfl, ht⟩ := hrest.cons_inv
    simp only
    refine (readLazy_keeps (ht.skip verbose)).elim fun greedy _ _ ht => ?_
    exact .ite (.error _ _) (.ok _ ht)
  · exact .error _ _

/-! ## Groups -/

theorem readFlags_carries (negated dangling : Bool) (changes : FlagChanges) (h : Trails cs ds) :
    Carries (readFlags negated dangling changes cs) (readFlags negated dangling changes ds) := by
  induction cs generalizing ds negated dangling changes with
  | nil => exact .error _ _
  | cons c cs ih =>
      obtain ⟨ds, rfl, ht⟩ := h.cons_inv
      rw [readFlags, readFlags]
      refine .ite (.ite (.error _ _) (.ok _ ht)) (.ite (.ite (.error _ _) (ih _ _ _ ht)) ?_)
      cases Flag.ofChar? c with
      | none => exact .error _ _
      | some flag => exact .ite (.error _ _) (ih _ _ _ ht)

theorem readGroupName_carries (first : Bool) (h : Trails cs ds) :
    Carries (readGroupName first cs) (readGroupName first ds) := by
  induction cs generalizing ds first with
  | nil => exact .error _ _
  | cons c cs ih =>
      obtain ⟨ds, rfl, ht⟩ := h.cons_inv
      rw [readGroupName, readGroupName]
      exact .ite (.ok _ ht) (.ite ((ih _ ht).convert _) (.error _ _))

theorem readNewName_carries (names : List String) (h : Trails cs ds) :
    Carries (readNewName names cs) (readNewName names ds) :=
  (readGroupName_carries true h).refine _

theorem readGroupFlags_carries (h : Trails cs ds) :
    Carries (readGroupFlags cs) (readGroupFlags ds) := by
  cases cs with
  | nil => exact .error _ _
  | cons c cs =>
      have hflags := readFlags_carries false false [] h
      obtain ⟨ds, rfl, -⟩ := h.cons_inv
      exact hflags.refine _

theorem isLookAround_eq (h : Trails cs ds) : isLookAround ds = isLookAround cs := by
  rw [isLookAround, isLookAround, h.isPrefixOf_eq (by decide), h.isPrefixOf_eq (by decide),
    h.isPrefixOf_eq (by decide), h.isPrefixOf_eq (by decide)]

theorem readGroupStart_carries (verbose : Bool) (names : List String) (h : Trails cs ds) :
    Carries (readGroupStart verbose names cs) (readGroupStart verbose names ds) := by
  have hs := h.skip verbose
  unfold readGroupStart
  split
  · next rest hcs =>
    rw [hcs] at hs
    obtain ⟨rest', hds, ht⟩ := hs.cons_inv
    have hname : ∀ mark : List Char, mark.isPrefixOf rest = true → Carries
        (readNewName names (rest.drop mark.length)) (readNewName names (rest'.drop mark.length)) := by
      intro mark hmark
      exact readNewName_carries names (ht.drop (List.isPrefixOf_iff_prefix.1 hmark).length_le)
    rw [hds]
    simp only
    rw [isLookAround_eq ht, ht.isPrefixOf_eq (by decide), ht.isPrefixOf_eq (by decide)]
    refine .ite (.error _ _) ?_
    by_cases hlong : ['P', '<'].isPrefixOf rest
    · rw [if_pos hlong, if_pos hlong]
      exact hname ['P', '<'] hlong
    · rw [if_neg hlong, if_neg hlong]
      by_cases hshort : ['<'].isPrefixOf rest
      · rw [if_pos hshort, if_pos hshort]
        exact hname ['<'] hshort
      · rw [if_neg hshort, if_neg hshort]
        exact readGroupFlags_carries ht
  · next hplain =>
    split
    · next rest' hds =>
      rw [hds] at hs
      cases hcs : skip verbose cs with
      | nil =>
          rw [hcs] at hs
          cases hs
      | cons c rest =>
          rw [hcs] at hs
          cases hs
          exact absurd hcs (hplain rest)
    · exact .ok _ hs

end Exemplar.Pattern
