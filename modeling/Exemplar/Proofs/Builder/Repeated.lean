import Exemplar.Proofs.Builder.Nesting
import Exemplar.Proofs.Builder.Tree
import Exemplar.Proofs.Path.Rendering

/-!
# Arrays of equal elements

An array that is described by its elements may as well be written element by element: it
is opened, the subtree that an element looks like is grafted as often as there are
examples, and it is closed. The documents are the same. The rules are not, as each element
has its own then, and they are for this element only. But under every element they are
the lists that the description puts once, under the wildcard.
-/

namespace Exemplar

open Builder

namespace Registry

theorem toList_reroot_render_of_rooted (p : Path) {form : String} (h : Rooted form) :
    (reroot p.render form).toList = p.render.toList ++ form.toList.tail := by
  have hhead : form.toList.head? = some '$' := h
  simp [reroot, hhead]

/-- Rules of different elements of an array are never under one form. -/
theorem index_eq_of_reroot_eq {i j : Nat} {form other : String} (h : Rooted form)
    (h' : Rooted other)
    (he : reroot (Path.render [.index i]) form = reroot (Path.render [.index j]) other) :
    i = j := by
  have hlist := congrArg String.toList he
  rw [toList_reroot_render_of_rooted _ h, toList_reroot_render_of_rooted _ h'] at hlist
  have hdigits : (toString i).toList ++ ']' :: form.toList.tail =
      (toString j).toList ++ ']' :: other.toList.tail := by
    simpa [Path.render, Path.rootMark, Path.renderSteps, Segment.render] using hlist
  -- The bracket behind the position is the first one, so it is the last one backwards.
  have hclose : ∀ i : Nat, ']' ∉ (toString i).toList.reverse := fun i => by
    simpa using notMem_toString (c := ']') (by decide) i
  have hback := congrArg List.reverse hdigits
  rw [List.reverse_append, List.reverse_append, List.reverse_cons, List.reverse_cons,
    List.append_assoc, List.append_assoc, List.singleton_append, List.singleton_append] at hback
  exact toList_toString_inj
    (List.reverse_injective (append_cons_inj (hclose i) (hclose j) hback).2)

theorem reroot_ne_root (s : Segment) {form : String} (h : Rooted form) :
    reroot (Path.render [s]) form ≠ Path.root.render := by
  intro he
  have hlist := congrArg String.toList he
  rw [toList_reroot_render_of_rooted _ h] at hlist
  have hempty : s.render.toList = [] := by
    have hboth : s.render = "" ∧ form.toList.tail = [] := by
      simpa [Path.render, Path.rootMark, Path.root, Path.renderSteps] using hlist
    rw [hboth.1]
    rfl
  exact s.render_ne_empty hempty

end Registry

namespace Item

theorem exists_of_mem_elementNotes {items : List Item} {i : Nat} {n : Note}
    (hroot : ∀ item ∈ items, ∀ n ∈ item.notes, Registry.Rooted n.1)
    (hn : n ∈ elementNotes i items) :
    ∃ k m, i ≤ k ∧ Registry.Rooted m.1 ∧ n = Note.under [.index k] m := by
  induction items generalizing i with
  | nil => cases hn
  | cons item items ih =>
      rcases List.mem_append.1 hn with hn | hn
      · obtain ⟨m, hm, rfl⟩ := List.mem_map.1 hn
        exact ⟨i, m, le_refl i, hroot item (by simp) m hm, rfl⟩
      · obtain ⟨k, m, hk, hm, rfl⟩ := ih (fun item h => hroot item (by simp [h])) hn
        exact ⟨k, m, Nat.le_of_succ_le hk, hm, rfl⟩

theorem rulesFor_elementNotes {items : List Item} {i j : Nat} {item : Item} {form : String}
    (hroot : ∀ item ∈ items, ∀ n ∈ item.notes, Registry.Rooted n.1)
    (hi : items[i]? = some item) (hf : Registry.Rooted form) :
    Registry.rulesFor (Registry.reroot (Path.render [.index (j + i)]) form)
      (elementNotes j items) = Registry.rulesFor form item.notes := by
  induction items generalizing i j with
  | nil => cases hi
  | cons first items ih =>
      have hfirst := hroot first (by simp)
      have hrest : ∀ item ∈ items, ∀ n ∈ item.notes, Registry.Rooted n.1 :=
        fun item h => hroot item (by simp [h])
      rw [elementNotes, Registry.rulesFor_append]
      cases i with
      | zero =>
          obtain rfl : first = item := by simpa using hi
          -- The elements behind have other positions, so none of their rules is at this one.
          have hlater : Registry.rulesFor (Registry.reroot (Path.render [.index (j + 0)]) form)
              (elementNotes (j + 1) items) = [] := by
            refine Registry.rulesFor_eq_nil_iff.2 fun n hn he => ?_
            obtain ⟨k, m, hk, hm, rfl⟩ := exists_of_mem_elementNotes hrest hn
            have := Registry.index_eq_of_reroot_eq hm hf he
            omega
          rw [hlater, List.append_nil]
          exact Registry.rulesFor_map_under [.index j] hf hfirst
      | succ i =>
          have hbefore : Registry.rulesFor
              (Registry.reroot (Path.render [.index (j + (i + 1))]) form)
              (first.notes.map (Note.under [.index j])) = [] := by
            refine Registry.rulesFor_eq_nil_iff.2 fun n hn he => ?_
            obtain ⟨m, hm, rfl⟩ := List.mem_map.1 hn
            have := Registry.index_eq_of_reroot_eq (hfirst m hm) hf he
            omega
          rw [hbefore, List.nil_append, ← ih hrest (by simpa using hi : items[i]? = some item),
            Nat.add_right_comm j 1 i, Nat.add_assoc]

/-! ## Copies of one subtree -/

theorem elementsSpelled_replicate (config : Config) (n : Nat) (s : Subtree) :
    ElementsSpelled config (List.replicate n (.subtree s)) (List.replicate n (.graft .next s)) := by
  induction n with
  | zero => exact .nil
  | succ n ih => exact .cons (.subtree .next s) ih

theorem documents_replicate (config : Config) (n : Nat) (s : Subtree) :
    documents config (List.replicate n (.subtree s)) = List.replicate n s.document := by
  induction n with
  | zero => rfl
  | succ n ih =>
      rw [List.replicate_succ, documents, ih]
      rfl

/-- Each copy of a subtree has the rules of the subtree. -/
theorem rulesFor_copies {s : Subtree} (h : s.registry.Grouped) {i n : Nat} (hi : i < n)
    (q : Path) :
    Registry.rulesFor (Path.render (.index i :: q))
      (elementNotes 0 (List.replicate n (.subtree s))) = s.registry.rulesAt q := by
  have hroot : ∀ item ∈ List.replicate n (Item.subtree s), ∀ n ∈ item.notes,
      Registry.Rooted n.1 := by
    intro item hitem
    obtain rfl := List.eq_of_mem_replicate hitem
    exact h.rooted_notes
  have hitem : (List.replicate n (Item.subtree s))[i]? = some (.subtree s) := by simp [hi]
  have hat := rulesFor_elementNotes (j := 0) hroot hitem (Registry.rooted_render q)
  rw [Registry.reroot_render, Nat.zero_add, List.singleton_append] at hat
  rw [hat, notes, h.rulesFor_notes]
  rfl

end Item

namespace Cardinality

def exampleCount (c : Cardinality) (config : Config) : Nat :=
  c.examples?.getD config.samples.examples

theorem check_eq_ok_iff {c : Cardinality} :
    c.check = .ok () ↔ ∀ min ∈ c.min?, ∀ max ∈ c.max?, min ≤ max := by
  rw [check]
  cases c.min? with
  | none => simp
  | some min =>
      cases c.max? with
      | none => simp
      | some max => by_cases h : max < min <;> simp [h]; omega

theorem rules_eq (c : Cardinality) :
    c.rules =
      if c.min? = none ∧ c.max? = none then [.exactType]
      else (c.min?.map Rule.minLength).toList ++ (c.max?.map Rule.maxLength).toList := by
  rw [rules]
  cases c.min? <;> cases c.max? <;> rfl

theorem rulesFor_root_notes (c : Cardinality) {s : Subtree} (h : s.registry.Grouped) :
    Registry.rulesFor Path.root.render (c.notes s) = c.rules := by
  have hown : Registry.rulesFor Path.root.render (c.rules.map Rule.note) = c.rules :=
    Registry.rulesFor_map_pair ..
  have helement : Registry.rulesFor Path.root.render
      (s.registry.notes.map (Note.under [.wildcard])) = [] := by
    refine Registry.rulesFor_eq_nil_iff.2 fun n hn he => ?_
    obtain ⟨m, hm, rfl⟩ := List.mem_map.1 hn
    exact Registry.reroot_ne_root .wildcard (h.rooted_notes m hm) he
  rw [notes, Registry.rulesFor_append, hown, helement, List.append_nil]

theorem rulesFor_element_notes (c : Cardinality) {s : Subtree} (h : s.registry.Grouped)
    (q : Path) :
    Registry.rulesFor (Path.render (.wildcard :: q)) (c.notes s) = s.registry.rulesAt q := by
  have hown : Registry.rulesFor (Path.render ([.wildcard] ++ q)) (c.rules.map Rule.note) = [] := by
    rw [← Registry.reroot_render]
    refine Registry.rulesFor_eq_nil_iff.2 fun n hn he => ?_
    obtain ⟨rule, -, rfl⟩ := List.mem_map.1 hn
    exact Registry.reroot_ne_root .wildcard (Registry.rooted_render q) he.symm
  rw [← List.singleton_append, notes, Registry.rulesFor_append, hown, List.nil_append,
    Registry.rulesFor_render_append _ _ h.rooted_notes, h.rulesFor_notes]
  rfl

theorem rooted_notes (c : Cardinality) (s : Subtree) :
    ∀ n ∈ c.notes s, Registry.Rooted n.1 := by
  intro n hn
  rcases List.mem_append.1 hn with hn | hn
  · obtain ⟨rule, -, rfl⟩ := List.mem_map.1 hn
    exact Registry.rooted_render _
  · obtain ⟨m, -, rfl⟩ := List.mem_map.1 hn
    exact Registry.rooted_reroot _ m.1

end Cardinality

/-- Calls that put an array of copies of a subtree into a slot, one copy after the other. -/
def Op.oneByOne (slot : Slot) (n : Nat) (s : Subtree) : List Op :=
  .array slot :: (List.replicate n (.graft .next s) ++ [.closeArray])

namespace Builder

variable {b : Builder} {slot : Slot}

theorem exists_run_arrayLike (hb : b.Framed) (hp : b.poisoned = false)
    (hslot : slot.kind = b.current.kind) {c : Cardinality}
    (hc : ∀ min ∈ c.min?, ∀ max ∈ c.max?, min ≤ max) {element : Element} {s : Subtree}
    (hmade : element.realize b.config = .ok s) :
    ∃ b', (Op.arrayLike slot c element).run b = ⟨b', none⟩ ∧
      b.perform? (.write slot (.arr (List.replicate (c.exampleCount b.config) s.document))
        (c.notes s) none) = some b' := by
  have hdoes : Op.Does b (.arrayLike slot c element) _ :=
    .arrayLike slot (Cardinality.check_eq_ok_iff.2 hc) hmade
  obtain ⟨b', hwrite⟩ := exists_perform_write hb hslot
    (.arr (List.replicate (c.exampleCount b.config) s.document)) (c.notes s) none
  exact ⟨b', Op.run_eq_ok_iff.2 ⟨hp, _, hdoes, hwrite⟩, hwrite⟩

theorem exists_run_oneByOne (hb : b.Framed) (hp : b.poisoned = false)
    (hslot : slot.kind = b.current.kind) (n : Nat) (s : Subtree) :
    ∃ b', b.runStrict (Op.oneByOne slot n s) = .ok b' ∧
      b.perform? (.write slot (.arr (List.replicate n s.document))
        (Item.elementNotes 0 (List.replicate n (.subtree s))) none) = some b' := by
  have hspelled : Item.Spelled b.config slot (.array (List.replicate n (.subtree s)))
      (Op.oneByOne slot n s) :=
    .array "array" "close_array" slot (by simp) (Item.elementsSpelled_replicate b.config n s)
  obtain ⟨b', hwrite⟩ := exists_perform_write hb hslot
    (.arr (List.replicate n s.document)) (Item.elementNotes 0 (List.replicate n (.subtree s))) none
  refine ⟨b', hspelled.runStrict hb hp ?_ hslot, hwrite⟩
  rwa [Item.document, Item.documents_replicate]

end Builder

/-- An array that is described by its elements has the document that it has if it is
opened, grafted element by element, and closed. Its own rules are at its path. The rules
that the element has at a path are under the wildcard, and these are the rules that each
of the grafted elements has there; in both cases they come behind what has been there
before. Nothing else gets a rule from the description, and it is the same whatever the
number of examples. All rules of the element have been given by calls, perhaps inside of
more arrays of this kind, and are at paths with a wildcard for each of these and one for
the new array. -/
theorem arrayLike_agrees_with_grafts {b : Builder} {slot : Slot} {c : Cardinality}
    {element : Element} {s : Subtree} (hb : b.Reachable) (hp : b.poisoned = false)
    (hslot : slot.kind = b.current.kind) (hc : ∀ min ∈ c.min?, ∀ max ∈ c.max?, min ≤ max)
    (hmade : element.realize b.config = .ok s) (hbuilt : ∀ t ∈ element.subtrees, t.Built) :
    ∃ (b₁ b₂ : Builder) (p : Path),
      b.slotPath? slot = some p ∧
      (Op.arrayLike slot c element).run b = ⟨b₁, none⟩ ∧
      b.runStrict (Op.oneByOne slot (c.exampleCount b.config) s) = .ok b₂ ∧
      b₁.document = b₂.document ∧ b₁.frames = b₂.frames ∧
      b₁.registry = b.registry.pushAll (c.rules.map (p.render, ·) ++
        s.registry.notes.map (Note.under (p.extend .wildcard))) ∧
      b₁.registry.rulesAt p = b.registry.rulesAt p ++
        (if c.min? = none ∧ c.max? = none then [.exactType]
          else (c.min?.map Rule.minLength).toList ++ (c.max?.map Rule.maxLength).toList) ∧
      (∀ q, b₁.registry.rulesAt (p.extend .wildcard ++ q) =
        b.registry.rulesAt (p.extend .wildcard ++ q) ++ s.registry.rulesAt q) ∧
      (∀ i < c.exampleCount b.config, ∀ q,
        b₂.registry.rulesAt (p.extend (.index i) ++ q) =
          b.registry.rulesAt (p.extend (.index i) ++ q) ++ s.registry.rulesAt q) ∧
      (∀ examples? : Option Nat, ∃ b₃ : Builder,
        (Op.arrayLike slot { c with examples? } element).run b = ⟨b₃, none⟩ ∧
          b₃.registry = b₁.registry) ∧
      (∀ q, ∀ rule ∈ s.registry.rulesAt q,
        ∃ k q', q'.render = q.render ∧ s.Gives k q' rule) ∧
      ∀ k q rule, s.Gives k q rule →
        rule ∈ b₁.registry.rulesAt (p.extend .wildcard ++ q) ∧
          (p.extend .wildcard ++ q).count .wildcard = k + 1 := by
  have hframed : b.Framed := .of_reachable hb
  have hgrouped := Element.grouped_of_realize hmade hbuilt
  have hrooted := Cardinality.rooted_notes c s
  obtain ⟨b₁, hrun, hwrite⟩ := exists_run_arrayLike hframed hp hslot hc hmade
  obtain ⟨b₂, hrun', hwrite'⟩ := exists_run_oneByOne hframed hp hslot (c.exampleCount b.config) s
  obtain ⟨document, p, hins, hb₁⟩ := perform?_write_eq_some_iff.1 hwrite
  obtain ⟨document', p', hins', hb₂⟩ := perform?_write_eq_some_iff.1 hwrite'
  -- Both write the same value into the same slot, so only their notes are left to compare.
  obtain ⟨rfl, rfl⟩ := Prod.mk.inj (Option.some.inj (hins.symm.trans hins'))
  have hpath := slotPath?_of_insertAt? hins
  have hregistry := registry_of_write hwrite hpath
  have hregistry' := registry_of_write hwrite' hpath
  refine ⟨b₁, b₂, p, hpath, hrun, hrun', by rw [← hb₁, ← hb₂], by rw [← hb₁, ← hb₂],
    by rw [hregistry, c.map_under_notes], ?_, ?_, ?_, ?_,
    fun q rule h => Element.exists_gives hmade hbuilt h, ?_⟩
  · have hat := Registry.rulesFor_render_append p .root hrooted
    rw [c.rulesFor_root_notes hgrouped, Path.root, List.append_nil] at hat
    rw [hregistry, Registry.rulesAt_pushAll, hat, Cardinality.rules_eq]
  · intro q
    have hat := Registry.rulesFor_render_append p (.wildcard :: q) hrooted
    rw [c.rulesFor_element_notes hgrouped, ← Path.extend_append] at hat
    rw [hregistry, Registry.rulesAt_pushAll, hat]
  · intro i hi q
    have hat := Registry.rulesFor_render_append p (.index i :: q)
      (Item.rooted_elementNotes 0 (List.replicate (c.exampleCount b.config) (.subtree s)))
    rw [Item.rulesFor_copies hgrouped hi, ← Path.extend_append] at hat
    rw [hregistry', Registry.rulesAt_pushAll, hat]
  · intro examples?
    obtain ⟨b₃, hrun'', hwrite''⟩ :=
      exists_run_arrayLike (c := { c with examples? }) hframed hp hslot hc hmade
    refine ⟨b₃, hrun'', ?_⟩
    rw [hregistry, registry_of_write hwrite'' hpath]
    rfl
  · intro k q rule hgives
    rw [Path.extend_append]
    exact mem_rulesAt_of_write hwrite hpath (hgives.noted.element c)

def labelling : List Op :=
  [.stringType (.key "alias") (some "sku"),
    .minArrayLike (.key "flags") 1 (.value (.boolean (some true)))]

def labelled : Subtree :=
  ⟨((new .object {}).after labelling).document, ((new .object {}).after labelling).registry⟩

theorem labelled_gives_inner_rule : labelled.Gives 1 [.key "flags", .wildcard] .exactType := by
  have helement : Op.Gives ((new .object {}).after [.stringType (.key "alias") (some "sku")])
      (.minArrayLike (.key "flags") 1 (.value (.boolean (some true)))) 1
      (Path.extend [.key "flags"] .wildcard ++ Path.root) .exactType :=
    .element (s := .ofGenerated (.matched (.bool true) .exactType)) _ rfl rfl (.value rfl)
  have hfinish : ((new .object {}).after ([.stringType (.key "alias") (some "sku")] ++
      .minArrayLike (.key "flags") 1 (.value (.boolean (some true))) :: [])).finish =
        .ok labelled := rfl
  exact .call rfl helement hfinish

theorem arrayLike_agrees_with_grafts_of_labelled :
    (new .object {}).Reachable ∧
    (Element.template .object labelling false).realize {} = .ok labelled ∧
    ∃ b₁ b₂ : Builder,
      (Op.arrayLike (.key "ids") ⟨some 1, none, some 2⟩ (.template .object labelling false)).run
        (new .object {}) = ⟨b₁, none⟩ ∧
      (new .object {}).runStrict [.array (.key "ids"), .graft .next labelled,
        .graft .next labelled, .closeArray] = .ok b₂ ∧
      b₁.document = b₂.document ∧
      b₁.registry.rulesAt [.key "ids"] = [.minLength 1] ∧
      b₁.registry.rulesAt [.key "ids", .wildcard, .key "alias"] = [.exactType] ∧
      b₂.registry.rulesAt [.key "ids", .index 1, .key "alias"] = [.exactType] ∧
      .exactType ∈ b₁.registry.rulesAt [.key "ids", .wildcard, .key "flags", .wildcard] := by
  have hb : (new .object {}).Reachable := ⟨.object, {}, [], rfl⟩
  have hmade : (Element.template .object labelling false).realize {} = .ok labelled := rfl
  have hbuilt : ∀ t ∈ (Element.template .object labelling false).subtrees, t.Built := by
    simp [Element.subtrees, Op.subtreesOf, Op.subtrees, labelling, Op.stringType,
      Op.minArrayLike]
  obtain ⟨b₁, b₂, p, hpath, hrun, hrun', hdocument, -, -, hown, helement, hcopy, -, -, hinner⟩ :=
    arrayLike_agrees_with_grafts (c := ⟨some 1, none, some 2⟩) hb rfl
      (rfl : (Slot.key "ids").kind = .object) (by simp) hmade hbuilt
  obtain rfl : [.key "ids"] = p := Option.some.inj hpath
  have hrule := (hinner _ _ _ labelled_gives_inner_rule).1
  exact ⟨hb, hmade, b₁, b₂, hrun, hrun', hdocument, hown, helement [.key "alias"],
    hcopy 1 (by decide) [.key "alias"], hrule⟩

end Exemplar
