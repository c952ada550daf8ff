import Exemplar.Builder.Call
import Exemplar.Proofs.Builder.Frames
import Exemplar.Proofs.Document.Denotation

/-!
# Rules are about nodes

A rule is kept by the written form of a path, and nothing keeps the node that the
path leads to: what is overwritten takes nodes away, and an array that is described
by its elements but has no example has none to begin with. `Builder.Fresh` says of
calls that they do neither of this. All they write is new, and all that they are
handed has come about in the same way.

A builder is `Grounded` if all of its forms are forms of paths that denote some
node of its document. One deed keeps this if it adds to the document and brings
rules that are grounded in the value that it writes, because a path that denotes a
node of the value denotes it below the slot as well. `Fresh.grounded` is the run.
-/

namespace Exemplar

open Builder

/-- Each form is the form of a path that denotes some node of a document. -/
def Json.Grounds (j : Json) (forms : List String) : Prop :=
  ∀ form ∈ forms, ∃ p d, Path.render p = form ∧ j.Denotes p d

def Subtree.Grounded (s : Subtree) : Prop := s.document.Grounds s.registry.paths

namespace Builder

def Grounded (b : Builder) : Prop := b.document.Grounds b.registry.paths

/-- Nothing is in a slot of the current container. The next position is always free. -/
def Vacant (b : Builder) (slot : Slot) : Prop :=
  ∀ name, slot = .key name → b.document.at? (b.current.path.extend (.key name)) = none

end Builder

mutual

/-- A subtree that has come about without overwriting anything. -/
inductive Subtree.Fresh : Subtree → Prop
  | value (g : Generated) : Subtree.Fresh (.ofGenerated g)
  | finished {kind : Kind} {config : Config} {ops : List Op} {s : Subtree}
    (hops : Builder.Fresh (new kind config) ops)
    (hs : ((new kind config).after ops).finish = .ok s) : Subtree.Fresh s

/-- Calls that overwrite nothing. Nothing is asked of those that fail. -/
inductive Builder.Fresh : Builder → List Op → Prop
  | nil (b : Builder) : Builder.Fresh b []
  | failed {b : Builder} {op : Op} {ops : List Op} {f : Failure}
    (hf : (op.run b).failure? = some f) (h : Builder.Fresh (op.run b).builder ops) :
    Builder.Fresh b (op :: ops)
  | made {b : Builder} {op : Op} {ops : List Op} (hop : Op.Fresh b op)
    (h : Builder.Fresh (op.run b).builder ops) : Builder.Fresh b (op :: ops)

inductive Op.Fresh : Builder → Op → Prop
  | opening {b : Builder} (call : String) (kind : Kind) {slot : Slot} (h : b.Vacant slot) :
    Op.Fresh b (.opening call kind slot)
  | closing (b : Builder) (call : String) (expected? : Option Kind) :
    Op.Fresh b (.closing call expected?)
  | put {b : Builder} (call : String) {slot : Slot} (g : Generator) (h : b.Vacant slot) :
    Op.Fresh b (.put call slot g)
  | putNamed {b : Builder} (call : String) {name : String} (g : Generator)
    (h : b.Vacant (b.defaultSlot name)) : Op.Fresh b (.putNamed call name g)
  | add {b : Builder} {slot : Slot} (g : Generator) (h : b.Vacant slot) :
    Op.Fresh b (.add slot g)
  | eachKey (b : Builder) (rules : List Rule) (example? : Option String) :
    Op.Fresh b (.eachKey rules example?)
  | arrayLike {b : Builder} {slot : Slot} {c : Cardinality} {element : Element}
    (h : b.Vacant slot) (hc : 0 < c.examples?.getD b.config.samples.examples)
    (he : Element.Fresh b.config element) : Op.Fresh b (.arrayLike slot c element)
  | graft {b : Builder} {slot : Slot} {s : Subtree} (h : b.Vacant slot) (hs : Subtree.Fresh s) :
    Op.Fresh b (.graft slot s)
  | graftAt {b : Builder} {target : Path} {s : Subtree} (h : b.document.at? target = none)
    (hs : Subtree.Fresh s) : Op.Fresh b (.graftAt target s)

inductive Element.Fresh : Config → Element → Prop
  | value (config : Config) (g : Generator) : Element.Fresh config (.value g)
  | subtree (config : Config) {s : Subtree} (hs : Subtree.Fresh s) :
    Element.Fresh config (.subtree s)
  | template {config : Config} {kind : Kind} {calls : List Op} (lenient : Bool)
    (h : Builder.Fresh (new kind config) calls) :
    Element.Fresh config (.template kind calls lenient)

end

/-! ## One deed -/

namespace Json.Grounds

variable {j j' v : Json} {forms : List String} {p : Path}

theorem mono (h : j.Grounds forms) (hj : j'.Covers j) : j'.Grounds forms := by
  intro form hform
  obtain ⟨p, d, hp, hd⟩ := h form hform
  obtain ⟨d', hd'⟩ := hj p ⟨d, hd⟩
  exact ⟨p, d', hp, hd'⟩

/-- Notes that are grounded in a node are grounded in the document below its path. -/
theorem under {notes : List Note} (h : v.Grounds (notes.map Prod.fst)) (hp : j.Denotes p v) :
    j.Grounds ((notes.map (Note.under p)).map Prod.fst) := by
  intro form hform
  obtain ⟨_, hm, rfl⟩ := List.mem_map.1 hform
  obtain ⟨n, hn, rfl⟩ := List.mem_map.1 hm
  obtain ⟨q, d, hq, hd⟩ := h n.1 (List.mem_map.2 ⟨n, hn, rfl⟩)
  refine ⟨p ++ q, d, ?_, hp.append hd⟩
  rw [Note.under, ← hq, Registry.reroot_render]

theorem append {forms' : List String} (h : j.Grounds forms) (h' : j.Grounds forms') :
    j.Grounds (forms ++ forms') := by
  intro form hform
  rcases List.mem_append.1 hform with hform | hform
  · exact h form hform
  · exact h' form hform

theorem pushAll {r : Registry} {notes : List Note} (h : j.Grounds r.paths)
    (hnotes : j.Grounds (notes.map Prod.fst)) : j.Grounds (r.pushAll notes).paths := by
  intro form hform
  rcases Registry.mem_paths_pushAll.1 hform with hform | ⟨n, hn, rfl⟩
  · exact h form hform
  · exact hnotes n.1 (List.mem_map_of_mem hn)

theorem root (j : Json) (rules : List Rule) : j.Grounds ((rules.map Rule.note).map Prod.fst) := by
  intro form hform
  obtain ⟨_, hn, rfl⟩ := List.mem_map.1 hform
  obtain ⟨rule, -, rfl⟩ := List.mem_map.1 hn
  exact ⟨.root, j, rfl, .self j⟩

theorem notes {r : Registry} (h : j.Grounds r.paths) : j.Grounds (r.notes.map Prod.fst) := by
  intro form hform
  obtain ⟨n, hn, rfl⟩ := List.mem_map.1 hform
  obtain ⟨e, he, hne⟩ := List.mem_flatMap.1 hn
  obtain ⟨rule, -, rfl⟩ := List.mem_map.1 hne
  exact h e.1 (List.mem_map_of_mem he)

/-- With one example or more, the rules of the elements are about the examples. -/
theorem cardinality {s : Subtree} (hs : s.Grounded) (c : Cardinality) {n : Nat} (hn : 0 < n) :
    (Json.arr (List.replicate n s.document)).Grounds ((c.notes s).map Prod.fst) := by
  have hwild : (Json.arr (List.replicate n s.document)).Denotes [.wildcard] s.document :=
    .step (.element (List.mem_replicate.2 ⟨hn.ne', rfl⟩)) (.self _)
  rw [Cardinality.notes, List.map_append]
  exact append (root _ c.rules) (under (notes hs) hwild)

end Json.Grounds

namespace Builder

variable {b b' : Builder}

/-- A deed that takes nothing away and brings rules about what it writes. -/
inductive Adds (b : Builder) : Deed → Prop
  | write {slot : Slot} {v : Json} {notes : List Note} (opens? : Option Kind) (h : b.Vacant slot)
    (hv : v.Grounds (notes.map Prod.fst)) : Adds b (.write slot v notes opens?)
  | close : Adds b .close
  | note (rules : List Rule) : Adds b (.note (rules.map Rule.note))
  | writeAt {target : Path} {v : Json} {notes : List Note} (h : b.document.at? target = none)
    (hv : v.Grounds (notes.map Prod.fst)) : Adds b (.writeAt target v notes)

theorem at?_slotStep_of_vacant {slot : Slot} {c : Json} {s : Segment} (h : b.Vacant slot)
    (hc : b.document.at? b.current.path = some c) (hs : c.slotStep? slot = some s) :
    b.document.at? (b.current.path.extend s) = none := by
  cases slot with
  | key name =>
      cases c <;> cases hs
      exact h name rfl
  | next =>
      cases c <;> cases hs
      simp [Path.extend, Json.at?_append, hc, Json.at?_cons, Json.child?]

theorem grounds_putAt (hb : b.Grounded) {p : Path} {s : Segment} {v document : Json}
    {notes : List Note} (hput : b.document.putAt? p s v = some document)
    (hfree : b.document.at? (p.extend s) = none) (hv : v.Grounds (notes.map Prod.fst)) :
    document.Grounds
      (b.registry.pushAll (notes.map (Note.under (p.extend s)))).paths := by
  have hcovers : document.Covers b.document := .putAt? hput hfree
  have hplace : document.Denotes (p.extend s) v := Json.denotes_of_at? (Json.at?_putAt?_self hput)
  exact (Json.Grounds.mono hb hcovers).pushAll (hv.under hplace)

theorem Grounded.perform (hb : b.Grounded) (hframed : b.Framed) {d : Deed} (hd : b.Adds d)
    (h : b.perform? d = some b') : b'.Grounded := by
  cases hd with
  | write opens? hfree hv =>
      obtain ⟨document, p, hins, rfl⟩ := perform?_write_eq_some_iff.1 h
      obtain ⟨c, s, hc, hs, rfl, hput⟩ := Json.insertAt?_eq_some_iff.1 hins
      exact grounds_putAt hb hput (at?_slotStep_of_vacant hfree hc hs) hv
  | close =>
      obtain ⟨f, fs, -, rfl⟩ := perform?_close_eq_some_iff.1 h
      exact hb
  | note rules =>
      cases h
      obtain ⟨c, hc, -⟩ := hframed.exists_current
      exact Json.Grounds.pushAll hb ((Json.Grounds.root c rules).under (Json.denotes_of_at? hc))
  | writeAt hfree hv =>
      obtain ⟨document, hwith, rfl⟩ := perform?_writeAt_eq_some_iff.1 h
      obtain ⟨p, s, rfl, -, hput⟩ := documentWith_eq_ok_iff.1 hwith
      exact grounds_putAt hb hput hfree hv

end Builder

/-! ## Runs -/

theorem Generated.grounds_notes (g : Generated) : g.value.Grounds (g.notes.map Prod.fst) :=
  .root g.value g.rule?.toList

theorem Subtree.grounded_ofGenerated (g : Generated) : (Subtree.ofGenerated g).Grounded := by
  have hr : (Subtree.ofGenerated g).registry = ({} : Registry).pushAll g.notes := by
    cases h : g.rule? <;> simp [ofGenerated, Generated.notes, Rule.note, Registry.add, h]
  rw [Grounded, hr]
  exact Json.Grounds.pushAll (by simp [Json.Grounds, Registry.paths]) g.grounds_notes

theorem Builder.grounded_new (kind : Kind) (config : Config) : (new kind config).Grounded := by
  simp [Grounded, Json.Grounds, new, Registry.paths]

theorem Subtree.grounded_of_finish {b : Builder} {s : Subtree} (hb : b.Grounded)
    (hs : b.finish = .ok s) : s.Grounded := by
  obtain ⟨-, -, rfl⟩ := finish_eq_ok_iff.1 hs
  exact hb

mutual

theorem Subtree.Fresh.grounded {s : Subtree} : s.Fresh → s.Grounded
  | .value g => Subtree.grounded_ofGenerated g
  | .finished hops hs =>
      Subtree.grounded_of_finish (hops.grounded (.new _ _) (grounded_new _ _)) hs

theorem Builder.Fresh.grounded {b : Builder} {ops : List Op} :
    b.Fresh ops → b.Framed → b.Grounded → (b.after ops).Grounded
  | .nil b, _, hb => hb
  | .failed hf h, hframed, hb => by
      refine h.grounded (hframed.run _) ?_
      rcases Op.run_builder_of_failure hf with hrun | hrun <;> rw [hrun]
      · exact hb
      · exact hb
  | .made hop h, hframed, hb => by
      have hadds := fun d => hop.adds (d := d)
      refine h.grounded (hframed.run _) ?_
      rcases Op.run_builder_cases b _ with ⟨d, hd, hperform⟩ | hrun | hrun
      · exact hb.perform hframed (hadds d hd) hperform
      · rw [hrun]
        exact hb
      · rw [hrun]
        exact hb

/-- What a fresh call does if it succeeds takes nothing away. -/
theorem Op.Fresh.adds {b : Builder} {op : Op} {d : Deed} :
    Op.Fresh b op → op.Does b d → b.Adds d
  | .opening call kind h, hd => by
      cases hd
      exact .write _ h (.root _ [])
  | .closing b call expected?, hd => by
      cases hd
      exact .close
  | .put call g h, hd => by
      cases hd with
      | put _ _ hv => exact .write _ h (Generated.grounds_notes _)
  | .putNamed call g h, hd => by
      cases hd with
      | putNamed _ _ hv => exact .write _ h (Generated.grounds_notes _)
  | .add g h, hd => by
      cases hd with
      | add _ hv => exact .write _ h (Generated.grounds_notes _)
  | .eachKey b rules example?, hd => by
      cases hd
      exact .note [_]
  | .arrayLike h hc he, hd => by
      have ih := fun s hs => he.grounded (s := s) hs
      cases hd with
      | arrayLike _ _ hs => exact .write _ h (.cardinality (ih _ hs) _ hc)
  | .graft h hs, hd => by
      have ih := hs.grounded
      cases hd
      exact .write _ h (Json.Grounds.notes ih)
  | .graftAt h hs, hd => by
      have ih := hs.grounded
      cases hd
      exact .writeAt h (Json.Grounds.notes ih)

theorem Element.Fresh.grounded {config : Config} {element : Element} {s : Subtree} :
    element.Fresh config → element.realize config = .ok s → s.Grounded
  | .value config g, hs => by
      obtain ⟨v, -, rfl⟩ := Element.realize_value_eq_ok_iff.1 hs
      exact Subtree.grounded_ofGenerated v
  | .subtree config h, hs => by
      have ih := h.grounded
      cases hs
      exact ih
  | .template lenient h, hs =>
      Subtree.grounded_of_finish (h.grounded (.new _ _) (grounded_new _ _))
        (Element.finish_of_realize hs)

end

theorem Builder.Fresh.of_append {b : Builder} {earlier later : List Op}
    (h : b.Fresh (earlier ++ later)) : b.Fresh earlier := by
  induction earlier generalizing b with
  | nil => exact .nil b
  | cons op earlier ih =>
      cases h with
      | failed hf h => exact .failed hf (ih h)
      | made hop h => exact .made hop (ih h)

/-- Where nothing is overwritten, no rule is left behind without a node. At every
moment, each form in the registry is that of a path that denotes a node of the
document. -/
theorem rules_never_dangle {kind : Kind} {config : Config} {earlier later : List Op}
    (h : (new kind config).Fresh (earlier ++ later)) :
    ∀ form ∈ ((new kind config).after earlier).registry.paths,
      ∃ p d, Path.render p = form ∧ ((new kind config).after earlier).document.Denotes p d :=
  h.of_append.grounded (.new kind config) (grounded_new kind config)

def pages : List Op := [.eachLike (.key "lines") (.value (.string none))]

def book : List Op :=
  [.minArrayLike (.key "pages") 1 (.template .object pages false),
    .graftAt [.key "pages", .index 1] (.ofGenerated (.matched .null .exactType))]

theorem fresh_pages : (new .object {}).Fresh pages := by
  refine .made (.arrayLike ?_ (by decide) (.value _ _)) (.nil _)
  rintro name ⟨⟩
  rfl

theorem fresh_book : (new .object {}).Fresh (book ++ [.pop]) := by
  refine .made (.arrayLike ?_ (by decide) (.template false fresh_pages)) ?_
  · rintro name ⟨⟩
    rfl
  · exact .made (.graftAt rfl (.value _)) (.made (.closing ..) (.nil _))

theorem rules_never_dangle_of_book :
    (new .object {}).Fresh (book ++ [.pop]) ∧
    ((new .object {}).after book).registry.paths =
      ["$.pages", "$.pages[*].lines", "$.pages[*].lines[*]", "$.pages[1]"] ∧
    ∃ p d, Path.render p = "$.pages[*].lines[*]" ∧
      ((new .object {}).after book).document.Denotes p d :=
  ⟨fresh_book, rfl, rules_never_dangle fresh_book "$.pages[*].lines[*]" (by decide)⟩

end Exemplar
