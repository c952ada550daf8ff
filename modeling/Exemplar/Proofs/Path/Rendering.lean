import Exemplar.Path
import Mathlib.Data.List.Induction

/-!
# Written forms that can be read in one way

Nothing in the written form of a path is escaped, so a key may look like several
steps. A key is plain if it does not: there is no point in it, and it does not end
in what a step in brackets looks like. Brackets in other places do no harm.

A form is read from its end. If all keys are plain, the last step is either in
brackets, and then it reaches back to the last opening bracket, or it is a key, and
then it reaches back to the last point. So two paths with one form have the same
last step, and in front of it they have one form again. A key that is not plain
comes apart into two steps with the same form, which is another path.
-/

namespace Exemplar

/-- A key that does not look like several steps. -/
def PlainName (name : String) : Prop :=
  '.' ∉ name.toList ∧ ¬ "[*]".toList <:+ name.toList ∧
    ∀ i < UInt64.size, ¬ ("[" ++ toString i ++ "]").toList <:+ name.toList

namespace Segment

/-- The step is written in brackets: it is a wildcard, or an index for which a word of
64 bits has room. -/
def Bracketed : Segment → Prop
  | .key _ => False
  | .index i => i < UInt64.size
  | .wildcard => True

def Plain : Segment → Prop
  | .key name => PlainName name
  | s => s.Bracketed

end Segment

namespace Path

def Plain (p : Path) : Prop := ∀ s ∈ p, s.Plain

/-- A word of 64 bits has room for each of the indices. -/
def InRange (p : Path) : Prop := ∀ i, .index i ∈ p → i < UInt64.size

end Path

/-! ## The end of a form -/

/-- What stands in front of the last `a` and what stands behind it are told apart. -/
theorem append_cons_inj {α : Type} {a : α} {xs ys bs cs : List α} (hb : a ∉ bs) (hc : a ∉ cs)
    (h : xs ++ a :: bs = ys ++ a :: cs) : xs = ys ∧ bs = cs := by
  rcases List.append_eq_append_iff.1 h with ⟨ds, rfl, hds⟩ | ⟨ds, rfl, hds⟩
  · cases ds with
    | nil => simpa using hds
    | cons d ds =>
        obtain ⟨-, rfl⟩ := List.cons.inj hds
        exact absurd (List.mem_append_right ds List.mem_cons_self) hb
  · cases ds with
    | nil => simpa [eq_comm] using hds
    | cons d ds =>
        obtain ⟨-, rfl⟩ := List.cons.inj hds
        exact absurd (List.mem_append_right ds List.mem_cons_self) hc

theorem toList_toString_inj {i j : Nat} (h : (toString i).toList = (toString j).toList) :
    i = j := by
  have hdigits : Nat.toDigits 10 i = Nat.toDigits 10 j := by
    simpa [toString, Nat.repr_eq_ofList_toDigits] using h
  rw [← Nat.ofDigitChars_ten_toDigits (n := i), hdigits, Nat.ofDigitChars_ten_toDigits]

theorem notMem_toString {c : Char} (hc : c.isDigit = false) (i : Nat) :
    c ∉ (toString i).toList := by
  intro h
  have hdigit : c.isDigit = true := by
    refine Nat.isDigit_of_mem_toDigits (b := 10) (n := i) (by decide) (by decide) ?_
    simpa [toString, Nat.repr_eq_ofList_toDigits] using h
  exact absurd (hc.symm.trans hdigit) (by decide)

namespace Segment

variable {s t : Segment} {name : String}

theorem toList_render_key (name : String) :
    (Segment.key name).render.toList = '.' :: name.toList := by
  simp [render]

def content : Segment → List Char
  | .index i => (toString i).toList
  | _ => ['*']

theorem toList_render_of_bracketed (h : s.Bracketed) :
    s.render.toList = '[' :: (s.content ++ [']']) := by
  cases s with
  | key name => exact h.elim
  | index i => simp [render, content]
  | wildcard => rfl

theorem notMem_content {c : Char} (hc : c.isDigit = false) (hstar : c ≠ '*') :
    c ∉ s.content := by
  cases s with
  | index i => exact notMem_toString hc i
  | key | wildcard => simpa [content] using hstar

theorem content_inj (hs : s.Bracketed) (ht : t.Bracketed) (h : s.content = t.content) : s = t := by
  have hstar : ∀ i : Nat, (toString i).toList ≠ ['*'] := fun i hi =>
    notMem_toString (c := '*') (by decide) i (hi ▸ List.mem_singleton_self _)
  match s, t with
  | .index i, .index j => rw [toList_toString_inj h]
  | .index i, .wildcard => exact absurd h (hstar i)
  | .wildcard, .index j => exact absurd h.symm (hstar j)
  | .wildcard, .wildcard => rfl
  | .key _, _ => exact hs.elim
  | _, .key _ => exact ht.elim

theorem plainName_of_getLast? (hpoint : '.' ∉ name.toList)
    (hlast : name.toList.getLast? ≠ some ']') : PlainName name := by
  have hclose : ∀ cs : List Char, ¬ cs ++ [']'] <:+ name.toList := by
    rintro cs ⟨front, hfront⟩
    rw [← List.append_assoc] at hfront
    exact hlast (by rw [← hfront, List.getLast?_concat])
  exact ⟨hpoint, hclose ['[', '*'], fun i _ => by simpa using hclose ('[' :: (toString i).toList)⟩

theorem not_suffix_of_plainName (h : PlainName name) (hs : s.Bracketed) :
    ¬ s.render.toList <:+ name.toList := by
  cases s with
  | key => exact hs.elim
  | index i => exact h.2.2 i hs
  | wildcard => exact h.2.1

/-- A form that ends in a plain key does not end in a step in brackets. -/
theorem append_key_ne_append_bracketed (h : PlainName name) (hs : s.Bracketed)
    (xs ys : List Char) :
    xs ++ (Segment.key name).render.toList ≠ ys ++ s.render.toList := by
  have hsuffix := not_suffix_of_plainName h hs
  rw [toList_render_key]
  rw [toList_render_of_bracketed hs] at hsuffix ⊢
  intro heq
  rcases List.append_eq_append_iff.1 heq with ⟨ds, rfl, hds⟩ | ⟨ds, rfl, hds⟩
  · cases ds with
    | nil => simp at hds
    | cons d ds =>
        obtain ⟨-, hname⟩ := List.cons.inj hds
        exact hsuffix ⟨ds, hname.symm⟩
  -- The point in front of the key would stand in the brackets.
  · have hpoint : '.' ∈ '[' :: (s.content ++ [']']) := by simp [hds]
    have hcontent : '.' ∉ s.content := notMem_content (by decide) (by decide)
    simp [hcontent] at hpoint

theorem append_bracketed_inj (hs : s.Bracketed) (ht : t.Bracketed) {xs ys : List Char}
    (h : xs ++ s.render.toList = ys ++ t.render.toList) : xs = ys ∧ s = t := by
  have hopen : ∀ s : Segment, '[' ∉ s.content ++ [']'] := fun s => by
    simpa using notMem_content (s := s) (c := '[') (by decide) (by decide)
  rw [toList_render_of_bracketed hs, toList_render_of_bracketed ht] at h
  obtain ⟨hxs, hcontent⟩ := append_cons_inj (hopen s) (hopen t) h
  exact ⟨hxs, content_inj hs ht (List.append_cancel_right hcontent)⟩

theorem append_key_inj {name' : String} (h : PlainName name) (h' : PlainName name')
    {xs ys : List Char}
    (heq : xs ++ (Segment.key name).render.toList = ys ++ (Segment.key name').render.toList) :
    xs = ys ∧ Segment.key name = .key name' := by
  rw [toList_render_key, toList_render_key] at heq
  obtain ⟨hxs, hname⟩ := append_cons_inj h.1 h'.1 heq
  exact ⟨hxs, by rw [String.toList_inj.1 hname]⟩

theorem Plain.cases (h : s.Plain) : (∃ name, s = .key name ∧ PlainName name) ∨ s.Bracketed := by
  cases s with
  | key name => exact .inl ⟨name, rfl, h⟩
  | index | wildcard => exact .inr h

/-- The last step can be told from the form of a path. -/
theorem append_render_inj (hs : s.Plain) (ht : t.Plain) {xs ys : List Char}
    (h : xs ++ s.render.toList = ys ++ t.render.toList) : xs = ys ∧ s = t := by
  rcases hs.cases with ⟨name, rfl, hname⟩ | hs
  · rcases ht.cases with ⟨name', rfl, hname'⟩ | ht
    · exact append_key_inj hname hname' h
    · exact absurd h (append_key_ne_append_bracketed hname ht xs ys)
  · rcases ht.cases with ⟨name', rfl, hname'⟩ | ht
    · exact absurd h.symm (append_key_ne_append_bracketed hname' hs ys xs)
    · exact append_bracketed_inj hs ht h

theorem render_ne_empty (s : Segment) : s.render.toList ≠ [] := by
  cases s <;> simp [render]

/-- The form of a key that is not plain is the form of a shorter key and one more step. -/
theorem exists_render_eq_append (h : ¬ PlainName name) :
    ∃ (front : String) (s : Segment), Path.InRange [s] ∧
      (Segment.key name).render = (Segment.key front).render ++ s.render := by
  have hsuffix : ∀ s : Segment, s.render.toList <:+ name.toList →
      ∃ front : String, (Segment.key name).render = (Segment.key front).render ++ s.render := by
    rintro s ⟨front, hfront⟩
    refine ⟨.ofList front, String.toList_inj.1 ?_⟩
    rw [String.toList_append, toList_render_key, toList_render_key, ← hfront,
      String.toList_ofList, List.cons_append]
  simp only [PlainName, not_and_or, not_not, not_forall] at h
  rcases h with hpoint | hstar | ⟨i, hi, hindex⟩
  · obtain ⟨front, back, hname⟩ := List.append_of_mem hpoint
    refine (hsuffix (.key (.ofList back)) ?_).imp fun front h => ⟨_, by simp [Path.InRange], h⟩
    exact ⟨front, by rw [toList_render_key, String.toList_ofList, hname]⟩
  · exact (hsuffix .wildcard hstar).imp fun front h => ⟨_, by simp [Path.InRange], h⟩
  · exact (hsuffix (.index i) hindex).imp fun front h => ⟨_, by simpa [Path.InRange] using hi, h⟩

end Segment

namespace Path

variable {p q : Path}

theorem renderSteps_concat (p : Path) (s : Segment) :
    (renderSteps (p ++ [s])).toList = (renderSteps p).toList ++ s.render.toList := by
  simp [renderSteps_append, renderSteps_cons]

/-- Paths of plain steps with one form are one path, from their ends on. -/
theorem renderSteps_inj (hp : p.Plain) (hq : q.Plain)
    (h : (renderSteps p).toList = (renderSteps q).toList) : p = q := by
  induction p using List.reverseRecOn generalizing q with
  | nil =>
      rcases List.eq_nil_or_concat q with rfl | ⟨q, t, rfl⟩
      · rfl
      · rw [List.concat_eq_append, renderSteps_concat] at h
        exact absurd h.symm (List.append_ne_nil_of_right_ne_nil _ t.render_ne_empty)
  | append_singleton p s ih =>
      rw [renderSteps_concat] at h
      rcases List.eq_nil_or_concat q with rfl | ⟨q, t, rfl⟩
      · exact absurd h (List.append_ne_nil_of_right_ne_nil _ s.render_ne_empty)
      · rw [List.concat_eq_append] at hq h ⊢
        rw [renderSteps_concat] at h
        obtain ⟨hfront, rfl⟩ := Segment.append_render_inj (hp s (by simp)) (hq t (by simp)) h
        rw [ih (fun r hr => hp r (by simp [hr])) (fun r hr => hq r (by simp [hr])) hfront]

theorem render_inj : p.render = q.render ↔ (renderSteps p).toList = (renderSteps q).toList := by
  simp [render, ← String.toList_inj]

/-- Two paths of plain keys, and of positions that a word of 64 bits has room for, have one
form only if they are one path. Where a key is not plain, the form is that of another
path too. -/
theorem render_unambiguous :
    (∀ p q : Path, p.Plain → q.Plain → (p.render = q.render ↔ p = q)) ∧
    (∀ (p : Path) (name : String), p.InRange → .key name ∈ p → ¬ PlainName name →
      ∃ q : Path, q.InRange ∧ q ≠ p ∧ q.render = p.render) := by
  constructor
  · intro p q hp hq
    refine ⟨fun h => renderSteps_inj hp hq (render_inj.1 h), ?_⟩
    rintro rfl
    rfl
  · intro p name hp hmem hname
    obtain ⟨front, s, hs, hrender⟩ := Segment.exists_render_eq_append hname
    obtain ⟨before, behind, rfl⟩ := List.append_of_mem hmem
    refine ⟨before ++ .key front :: s :: behind, ?_, ?_, ?_⟩
    · intro i hi
      have hcases : .index i ∈ [s] ∨ .index i ∈ before ++ .key name :: behind := by
        simp only [List.mem_append, List.mem_cons] at hi ⊢
        tauto
      exact hcases.elim (hs i) (hp i)
    · intro heq
      simpa using congrArg List.length heq
    · simp only [render_append, renderSteps_cons, hrender, String.append_assoc]

theorem render_unambiguous_of_brackets :
    (Path.Plain [.key "a[0]b", .index 0] ∧ Path.Plain [.key "a", .index 0, .key "", .wildcard] ∧
      render [.key "a[0]b", .index 0] ≠ render [.key "a", .index 0, .key "", .wildcard]) ∧
    (Path.InRange [.index 3, .key "a[7]"] ∧ ¬ PlainName "a[7]" ∧
      ∃ q : Path, q.InRange ∧ q ≠ [.index 3, .key "a[7]"] ∧
        q.render = render [.index 3, .key "a[7]"]) := by
  have hnames : ∀ name ∈ ["a[0]b", "a", ""], PlainName name := by
    simp only [List.forall_mem_cons]
    exact ⟨Segment.plainName_of_getLast? (by decide) (by decide),
      Segment.plainName_of_getLast? (by decide) (by decide),
      Segment.plainName_of_getLast? (by decide) (by decide), nofun⟩
  have hlong : Path.Plain [.key "a[0]b", .index 0] := by
    simpa [Path.Plain, Segment.Plain, Segment.Bracketed] using hnames "a[0]b" (by decide)
  have hshort : Path.Plain [.key "a", .index 0, .key "", .wildcard] := by
    simpa [Path.Plain, Segment.Plain, Segment.Bracketed] using
      ⟨hnames "a" (by decide), hnames "" (by decide)⟩
  have hrange : Path.InRange [.index 3, .key "a[7]"] := by simp [Path.InRange, UInt64.size]
  have hbroken : ¬ PlainName "a[7]" := fun h => h.2.2 7 (by decide) ⟨['a'], rfl⟩
  refine ⟨⟨hlong, hshort, fun h => ?_⟩, hrange, hbroken, ?_⟩
  · exact absurd ((render_unambiguous.1 _ _ hlong hshort).1 h) (by decide)
  · exact render_unambiguous.2 _ "a[7]" hrange (by simp) hbroken

end Path

end Exemplar
