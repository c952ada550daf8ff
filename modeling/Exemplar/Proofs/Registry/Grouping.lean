import Exemplar.Registry
import Mathlib.Data.List.Induction

/-!
# A registry groups what was put into it

A note is a rule under a written form. All that ever happens to a registry is
that notes are put into it one by one: `pushAll r l` puts in the list `l`, and
`notes r` reads the registry back as such a list, with the notes of one form side
by side. Reading back loses the order of notes of different forms, but putting
the result into another registry does not show it: `pushAll_notes_pushAll` says
that it makes no difference whether notes are grouped before they are put under
a prefix or afterwards.

The notes of a registry stand for written forms of paths, so they begin with the
mark of the root. This is where moving them to another root is injective, and
`Grouped` keeps it together with the shape of a registry that has grown from the
empty one.
-/

namespace Exemplar

abbrev Note := String × Rule

namespace Entries

variable {β : Type _}

theorem alter_of_notMem {es : Entries β} {name : String} (f : Option β → β)
    (h : name ∉ es.keys) : es.alter name f = es ++ [(name, f none)] := by
  induction es with
  | nil => rfl
  | cons e es ih =>
      obtain ⟨k, v⟩ := e
      rw [keys_cons, List.mem_cons, not_or] at h
      simp [alter, Ne.symm h.1, ih h.2]

/-- A name that is there cuts the entries in two, and only the one between changes. -/
theorem exists_alter_eq {es : Entries β} {name : String} (f : Option β → β)
    (h : name ∈ es.keys) :
    ∃ before v after, es = before ++ (name, v) :: after ∧
      es.alter name f = before ++ (name, f (some v)) :: after := by
  induction es with
  | nil => simp at h
  | cons e es ih =>
      obtain ⟨k, v⟩ := e
      by_cases hk : k = name
      · subst hk
        exact ⟨[], v, es, rfl, by simp [alter]⟩
      · have hmem : name ∈ keys es := by
          rcases List.mem_cons.1 h with h | h
          · exact absurd h.symm hk
          · exact h
        obtain ⟨before, w, after, hes, halter⟩ := ih hmem
        exact ⟨(k, v) :: before, w, after, by rw [hes]; rfl, by simp [alter, hk, halter]⟩

theorem alter_comm {es : Entries β} {name other : String} (f g : Option β → β)
    (h : name ∈ es.keys) (hne : name ≠ other) :
    (es.alter other g).alter name f = (es.alter name f).alter other g := by
  induction es with
  | nil => simp at h
  | cons e es ih =>
      obtain ⟨k, v⟩ := e
      by_cases hk : k = name
      · subst hk
        simp [alter, hne]
      · have hmem : name ∈ keys es := by
          rcases List.mem_cons.1 h with h | h
          · exact absurd h.symm hk
          · exact h
        by_cases ho : k = other
        · subst ho
          simp [alter, hk]
        · simp [alter, hk, ho, ih hmem]

end Entries

namespace Registry

def notes (r : Registry) : List Note := r.entries.flatMap fun e => e.2.map (e.1, ·)

def pushAll (r : Registry) (l : List Note) : Registry :=
  l.foldl (fun r n => r.push n.1 n.2) r

@[simp] theorem pushAll_nil (r : Registry) : r.pushAll [] = r := rfl

@[simp] theorem pushAll_cons (r : Registry) (n : Note) (l : List Note) :
    r.pushAll (n :: l) = (r.push n.1 n.2).pushAll l := rfl

theorem pushAll_append (r : Registry) (l l' : List Note) :
    r.pushAll (l ++ l') = (r.pushAll l).pushAll l' := List.foldl_append

theorem mem_paths_push {r : Registry} {form other : String} {rule : Rule} :
    other ∈ (r.push form rule).paths ↔ other ∈ r.paths ∨ other = form := by
  rw [paths_push]
  split
  · next h =>
      constructor
      · exact Or.inl
      · rintro (h' | rfl)
        · exact h'
        · exact h
  · simp

theorem mem_paths_pushAll {r : Registry} {l : List Note} {form : String} :
    form ∈ (r.pushAll l).paths ↔ form ∈ r.paths ∨ ∃ n ∈ l, n.1 = form := by
  induction l generalizing r with
  | nil => simp
  | cons n l ih =>
      rw [pushAll_cons, ih, mem_paths_push]
      simp [or_assoc, eq_comm]

theorem paths_prefix_pushAll (r : Registry) (l : List Note) : r.paths <+: (r.pushAll l).paths := by
  induction l generalizing r with
  | nil => exact List.prefix_refl _
  | cons n l ih =>
      refine List.IsPrefix.trans ?_ (ih (r.push n.1 n.2))
      rw [paths_push]
      split
      · exact List.prefix_refl _
      · exact List.prefix_append _ _

theorem push_comm {r : Registry} {form other : String} (rule rule' : Rule)
    (h : form ∈ r.paths) (hne : form ≠ other) :
    (r.push other rule').push form rule = (r.push form rule).push other rule' :=
  congrArg Registry.mk (Entries.alter_comm _ _ h hne)

/-- A note for a form that is there may be put in before notes for other forms or
after them. -/
theorem pushAll_push_comm {r : Registry} {form : String} (rule : Rule) {l : List Note}
    (h : form ∈ r.paths) (hl : ∀ n ∈ l, n.1 ≠ form) :
    (r.pushAll l).push form rule = (r.push form rule).pushAll l := by
  induction l generalizing r with
  | nil => rfl
  | cons n l ih =>
      have hn : form ≠ n.1 := (hl n (by simp)).symm
      have hl' : ∀ m ∈ l, m.1 ≠ form := fun m hm => hl m (by simp [hm])
      rw [pushAll_cons, pushAll_cons, ih (mem_paths_push.2 (.inl h)) hl', push_comm rule n.2 h hn]

/-! ## Moving notes below a path -/

/-- A written form begins with the mark of the root. -/
def Rooted (form : String) : Prop := form.toList.head? = some '$'

theorem reroot_render_append (p q : Path) (tail : String) :
    reroot p.render (q.render ++ tail) = (p ++ q).render ++ tail := by
  have h : (q.render ++ tail).toList = '$' :: (q.renderSteps ++ tail).toList := by
    simp [Path.render, Path.rootMark]
  rw [reroot, h, Path.render_append]
  simp [String.append_assoc]

theorem reroot_reroot (p q : Path) (form : String) :
    reroot p.render (reroot q.render form) = reroot (p ++ q).render form := by
  rw [reroot.eq_1 q.render, reroot.eq_1 (p ++ q).render]
  split
  · exact reroot_render_append ..
  · exact reroot_render_append ..

theorem rooted_render (p : Path) : Rooted p.render := by
  simp [Rooted, Path.render, Path.rootMark]

theorem rooted_reroot (p : Path) (form : String) : Rooted (reroot p.render form) := by
  rw [reroot]
  split <;> simp [Rooted, Path.render, Path.rootMark]

theorem eq_of_reroot_eq {base form other : String} (h : Rooted form) (h' : Rooted other)
    (he : reroot base form = reroot base other) : form = other := by
  obtain ⟨tail, ht⟩ := List.head?_eq_some_iff.1 h
  obtain ⟨tail', ht'⟩ := List.head?_eq_some_iff.1 h'
  have hlist := congrArg String.toList he
  rw [reroot, reroot, ht, ht'] at hlist
  have htail : tail = tail' := by simpa using hlist
  exact String.toList_injective (by rw [ht, ht', htail])

end Registry

/-- A note at the place that it has below a path. -/
def Note.under (p : Path) (n : Note) : Note := (Registry.reroot p.render n.1, n.2)

theorem Note.under_under (p q : Path) (n : Note) : (n.under q).under p = n.under (p ++ q) := by
  simp [Note.under, Registry.reroot_reroot]

theorem Note.under_render (p q : Path) (rule : Rule) :
    Note.under p (q.render, rule) = ((p ++ q).render, rule) := by
  simp [Note.under, Registry.reroot_render]

namespace Registry

theorem extendAt_eq_pushAll (r : Registry) (p : Path) (rules : List Rule) :
    r.extendAt p rules = r.pushAll (rules.map (p.render, ·)) := by
  rw [extendAt, pushAll, List.foldl_map]

theorem mergeAt_eq_pushAll (r : Registry) (p : Path) (other : Registry) :
    r.mergeAt p other = r.pushAll (other.notes.map (Note.under p)) := by
  rw [mergeAt, pushAll, notes, List.map_flatMap, List.foldl_flatMap]
  congr 1
  funext r e
  simp [List.foldl_map, Note.under]

/-! ## Grouping -/

/-- What is true of a registry that has grown from the empty one. -/
structure Grouped (r : Registry) : Prop where
  nodup : r.paths.Nodup
  ne_nil : ∀ e ∈ r.entries, e.2 ≠ []
  rooted : ∀ form ∈ r.paths, Rooted form

theorem Grouped.empty : Grouped {} := ⟨by simp [paths], by simp, by simp [paths]⟩

theorem Grouped.push {r : Registry} (h : r.Grouped) {form : String} (rule : Rule)
    (hf : Rooted form) : (r.push form rule).Grouped where
  nodup := by
    rw [paths_push]
    split
    · exact h.nodup
    · exact List.nodup_append.2 ⟨h.nodup, by simp, by rintro a ha b hb rfl; simp_all⟩
  ne_nil := by
    intro e he
    -- Only the entry of the form changes, or a new one comes last.
    by_cases hm : form ∈ r.paths
    · obtain ⟨before, rules, after, hr, hpush⟩ :=
        Entries.exists_alter_eq (fun rules? => rules?.getD [] ++ [rule]) hm
      rw [Registry.push, hpush] at he
      rcases List.mem_append.1 he with he | he
      · exact h.ne_nil e (by simp [hr, he])
      · rcases List.mem_cons.1 he with rfl | he
        · simp
        · exact h.ne_nil e (by simp [hr, he])
    · rw [Registry.push, Entries.alter_of_notMem _ hm] at he
      rcases List.mem_append.1 he with he | he
      · exact h.ne_nil e he
      · simp [List.mem_singleton.1 he]
  rooted := by
    intro other ho
    rcases mem_paths_push.1 ho with ho | rfl
    · exact h.rooted other ho
    · exact hf

theorem Grouped.pushAll {r : Registry} (h : r.Grouped) {l : List Note}
    (hl : ∀ n ∈ l, Rooted n.1) : (r.pushAll l).Grouped := by
  induction l generalizing r with
  | nil => exact h
  | cons n l ih => exact ih (h.push n.2 (hl n (by simp))) fun m hm => hl m (by simp [hm])

/-- A note that is put into a registry is read back behind the notes of its form;
moved below a path, it may be put in at the end. -/
theorem pushAll_notes_push (r : Registry) {s : Registry} (h : s.Grouped) (p : Path)
    {form : String} (rule : Rule) (hf : Rooted form) :
    r.pushAll ((s.push form rule).notes.map (Note.under p)) =
      (r.pushAll (s.notes.map (Note.under p))).push (reroot p.render form) rule := by
  by_cases hm : form ∈ s.paths
  · obtain ⟨before, rules, after, hs, hpush⟩ :=
      Entries.exists_alter_eq (fun rules? => rules?.getD [] ++ [rule]) hm
    have hafter : ∀ e ∈ after, e.1 ≠ form := by
      have hnodup := h.nodup
      rw [paths, hs, Entries.keys, List.map_append, List.map_cons] at hnodup
      have hnot := (List.nodup_cons.1 (List.nodup_append.1 hnodup).2.1).1
      intro e he heq
      exact hnot (List.mem_map.2 ⟨e, he, heq⟩)
    have hrules : rules ≠ [] := h.ne_nil (form, rules) (by simp [hs])
    have hrooted : ∀ e ∈ after, Rooted e.1 := fun e he =>
      h.rooted e.1 (List.mem_map_of_mem (by simp [hs, he]))
    have hnotes : s.notes = before.flatMap (fun e => e.2.map (e.1, ·)) ++
        rules.map (form, ·) ++ after.flatMap (fun e => e.2.map (e.1, ·)) := by
      rw [notes, hs]
      simp
    have hnotes' : (s.push form rule).notes = before.flatMap (fun e => e.2.map (e.1, ·)) ++
        rules.map (form, ·) ++ (form, rule) :: after.flatMap (fun e => e.2.map (e.1, ·)) := by
      rw [notes, Registry.push, hpush]
      simp
    rw [hnotes, hnotes']
    simp only [List.map_append, List.map_cons, pushAll_append, pushAll_cons, Note.under]
    -- The form is in use by now, and no note that comes behind is for it.
    refine (pushAll_push_comm rule ?_ ?_).symm
    · obtain ⟨first, rest, rfl⟩ := List.exists_cons_of_ne_nil hrules
      exact mem_paths_pushAll.2 (.inr ⟨Note.under p (form, first), by simp, rfl⟩)
    · intro n hn heq
      obtain ⟨m, hm, rfl⟩ := List.mem_map.1 hn
      obtain ⟨e, he, hme⟩ := List.mem_flatMap.1 hm
      obtain ⟨rule', -, rfl⟩ := List.mem_map.1 hme
      exact hafter e he (eq_of_reroot_eq (hrooted e he) hf heq)
  · have hnotes : (s.push form rule).notes = s.notes ++ [(form, rule)] := by
      rw [notes, Registry.push, Entries.alter_of_notMem _ hm]
      simp [notes]
    rw [hnotes, List.map_append, pushAll_append]
    rfl

/-- Grouping notes before they are moved below a path comes to the same as
grouping them there. -/
theorem pushAll_notes_pushAll (r : Registry) {s : Registry} (h : s.Grouped) (p : Path)
    {l : List Note} (hl : ∀ n ∈ l, Rooted n.1) :
    r.pushAll ((s.pushAll l).notes.map (Note.under p)) =
      (r.pushAll (s.notes.map (Note.under p))).pushAll (l.map (Note.under p)) := by
  induction l generalizing s with
  | nil => rfl
  | cons n l ih =>
      have hn : Rooted n.1 := hl n (by simp)
      have hl' : ∀ m ∈ l, Rooted m.1 := fun m hm => hl m (by simp [hm])
      rw [pushAll_cons, ih (h.push n.2 hn) hl', pushAll_notes_push r h p n.2 hn]
      rfl

/-- What has been merged into a registry before it is merged itself may as well be
merged afterwards, with both paths in front. -/
theorem mergeAt_pushAll (r : Registry) {s : Registry} (h : s.Grouped) (p q : Path)
    (l : List Note) :
    r.mergeAt p (s.pushAll (l.map (Note.under q))) =
      (r.mergeAt p s).pushAll (l.map (Note.under (p ++ q))) := by
  have hl : ∀ n ∈ l.map (Note.under q), Rooted n.1 := by
    intro n hn
    obtain ⟨m, -, rfl⟩ := List.mem_map.1 hn
    exact rooted_reroot q m.1
  rw [mergeAt_eq_pushAll, mergeAt_eq_pushAll, pushAll_notes_pushAll r h p hl, List.map_map]
  simp [Function.comp_def, Note.under_under]

/-! ## Reading a grouped registry -/

def rulesFor (form : String) (l : List Note) : List Rule :=
  (l.filter (·.1 = form)).map Prod.snd

theorem mem_rulesFor {form : String} {rule : Rule} {l : List Note} :
    rule ∈ rulesFor form l ↔ (form, rule) ∈ l := by
  simp [rulesFor]

theorem rulesFor_append (form : String) (l l' : List Note) :
    rulesFor form (l ++ l') = rulesFor form l ++ rulesFor form l' := by
  rw [rulesFor, List.filter_append, List.map_append]
  rfl

theorem rulesFor_eq_nil_iff {form : String} {l : List Note} :
    rulesFor form l = [] ↔ ∀ n ∈ l, n.1 ≠ form := by
  simp [rulesFor, List.filter_eq_nil_iff]

theorem rulesFor_map_pair (form : String) (rules : List Rule) :
    rulesFor form (rules.map (form, ·)) = rules := by
  simp [rulesFor, List.filter_map, Function.comp_def]

theorem rulesFor_map_under (p : Path) {form : String} {l : List Note} (hf : Rooted form)
    (hl : ∀ n ∈ l, Rooted n.1) :
    rulesFor (reroot p.render form) (l.map (Note.under p)) = rulesFor form l := by
  have hform : ∀ n ∈ l, (n.under p).1 = reroot p.render form ↔ n.1 = form := fun n hn =>
    ⟨eq_of_reroot_eq (hl n hn) hf, fun h => by rw [Note.under, h]⟩
  rw [rulesFor, List.filter_map, List.map_map, rulesFor]
  rw [List.filter_congr (q := fun n => n.1 = form) (by simpa using hform)]
  rfl

theorem rulesFor_render_append (p q : Path) {l : List Note} (hl : ∀ n ∈ l, Rooted n.1) :
    rulesFor (p ++ q).render (l.map (Note.under p)) = rulesFor q.render l := by
  rw [← reroot_render, rulesFor_map_under p (rooted_render q) hl]

/-- The rules under a form are those that the notes of a registry have for it, as no
form comes up twice in a registry that has grown from the empty one. -/
theorem Grouped.rulesFor_notes {r : Registry} (h : r.Grouped) (form : String) :
    rulesFor form r.notes = (r.get? form).getD [] := by
  have hnodup := h.nodup
  obtain ⟨es⟩ := r
  rw [paths] at hnodup
  rw [notes, get?]
  dsimp only at hnodup ⊢
  induction es with
  | nil => rfl
  | cons e es ih =>
      obtain ⟨other, rules⟩ := e
      rw [Entries.keys_cons, List.nodup_cons] at hnodup
      have hrest : Grouped ⟨es⟩ :=
        ⟨hnodup.2, fun e he => h.ne_nil e (.tail _ he), fun form hf => h.rooted form (.tail _ hf)⟩
      rw [List.flatMap_cons, rulesFor_append, ih hrest hnodup.2, Entries.get?_cons]
      by_cases ho : other = form
      · subst ho
        rw [(Entries.get?_eq_none_iff es other).2 hnodup.1, rulesFor_map_pair]
        simp
      · have hnone : rulesFor form (rules.map (other, ·)) = [] :=
          rulesFor_eq_nil_iff.2 (by simpa using fun _ _ => ho)
        simp [hnone, ho]

theorem Grouped.rooted_notes {r : Registry} (h : r.Grouped) : ∀ n ∈ r.notes, Rooted n.1 := by
  intro n hn
  obtain ⟨e, he, hne⟩ := List.mem_flatMap.1 hn
  obtain ⟨rule, -, rfl⟩ := List.mem_map.1 hne
  exact h.rooted e.1 (List.mem_map_of_mem he)

/-- The forms of a registry are those of its notes, by their first use. -/
theorem paths_pushAll (l : List Note) :
    (({} : Registry).pushAll l).paths = (l.map Prod.fst).eraseDups := by
  induction l using List.reverseRecOn with
  | nil => rfl
  | append_singleton l n ih =>
      rw [pushAll_append, pushAll_cons, pushAll_nil, paths_push, ih, List.map_append,
        List.eraseDups_append]
      by_cases h : n.1 ∈ l.map Prod.fst
      · simp [List.cons_removeAll, h]
      · simp [List.cons_removeAll, h, List.eraseDups_cons]

/-- The rules under a form are those of its notes, by their order. -/
theorem get?_pushAll (r : Registry) (l : List Note) (form : String) :
    (r.pushAll l).get? form =
      match rulesFor form l with
      | [] => r.get? form
      | rules => some ((r.get? form).getD [] ++ rules) := by
  induction l generalizing r with
  | nil => rfl
  | cons n l ih =>
      rw [pushAll_cons, ih, get?_push]
      by_cases h : n.1 = form
      · subst h
        rw [rulesFor, rulesFor]
        cases hl : (l.filter (·.1 = n.1)).map Prod.snd <;> simp [hl]
      · have hcons : rulesFor form (n :: l) = rulesFor form l := by simp [rulesFor, h]
        rw [hcons, if_neg h]

theorem exists_mem_get?_pushAll (r : Registry) {l : List Note} {n : Note} (h : n ∈ l) :
    ∃ rules, (r.pushAll l).get? n.1 = some rules ∧ n.2 ∈ rules := by
  have hmem : n.2 ∈ rulesFor n.1 l := mem_rulesFor.2 h
  rw [get?_pushAll]
  split
  · next heq => simp [heq] at hmem
  · exact ⟨_, rfl, List.mem_append_right _ hmem⟩

/-- The rules under a form are only added to, at their end. -/
theorem get?_prefix_pushAll (r : Registry) (l : List Note) (form : String) :
    (r.get? form).getD [] <+: ((r.pushAll l).get? form).getD [] := by
  rw [get?_pushAll]
  split
  · exact List.prefix_refl _
  · exact List.prefix_append _ _

def rulesAt (r : Registry) (p : Path) : List Rule := (r.at? p).getD []

theorem rulesAt_pushAll (r : Registry) (l : List Note) (p : Path) :
    (r.pushAll l).rulesAt p = r.rulesAt p ++ rulesFor p.render l := by
  rw [rulesAt, at?, get?_pushAll]
  split
  · next h => rw [h, List.append_nil, rulesAt, at?]
  · rfl

end Registry

end Exemplar
