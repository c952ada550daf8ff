import Exemplar.Proofs.Builder.Inline
import Exemplar.Proofs.Builder.Log
import Exemplar.Proofs.Document.Steps

/-!
# Calls that spell a tree

An `Item` is what is put into one slot, with all that is inside of it: a value, an
object or an array of items, a subtree, or an array that is described by its
elements. `Item.Spelled` says which calls spell an item: one call for a leaf, and
for a container a call that opens it, the calls of its items in order, and a call
that closes it. `Item.document` is the document that an item stands for and
`Item.notes` are its rules, both by recursion on the item and without a builder.

A key may come up several times in an object. It stands where it came up first
and has the value that came up last, which is what `Entries.latest` says of a list
of entries. That the builder gets there by setting one entry after the other is
`Entries.putAll_eq_latest`.

What calls that spell an item do is what a single call would do that puts the
document of the item with all its rules. This is shown for containers by building
them from an empty root, where the calls of their items find nothing but what
the items before them have put, and then moving the result below the slot.
-/

namespace Exemplar

open Builder

namespace Entries

variable {β : Type _}

theorem ext_get? {es fs : Entries β} (hk : es.keys = fs.keys) (hn : es.keys.Nodup)
    (h : ∀ name, es.get? name = fs.get? name) : es = fs := by
  induction es generalizing fs with
  | nil =>
      cases fs with
      | nil => rfl
      | cons f fs => cases hk
  | cons e es ih =>
      obtain ⟨k, v⟩ := e
      cases fs with
      | nil => cases hk
      | cons f fs =>
          obtain ⟨l, w⟩ := f
          rw [keys_cons, keys_cons, List.cons.injEq] at hk
          obtain ⟨rfl, hk⟩ := hk
          rw [keys_cons, List.nodup_cons] at hn
          have hv : v = w := by simpa [get?_cons] using h k
          have hrest : es = fs := by
            refine ih hk hn.2 fun name => ?_
            by_cases hname : k = name
            · subst hname
              rw [(get?_eq_none_iff es k).2 hn.1, (get?_eq_none_iff fs k).2 (hk ▸ hn.1)]
            · simpa [get?_cons, hname] using h name
          rw [hv, hrest]

def putAll (es fs : Entries β) : Entries β := fs.foldl (fun es e => es.put e.1 e.2) es

theorem putAll_concat (es fs : Entries β) (e : String × β) :
    es.putAll (fs ++ [e]) = (es.putAll fs).put e.1 e.2 := List.foldl_concat ..

theorem keys_putAll (es : Entries β) : (putAll [] es).keys = es.keys.eraseDups := by
  induction es using List.reverseRecOn with
  | nil => rfl
  | append_singleton es e ih =>
      have hkeys : keys (es ++ [e]) = keys es ++ [e.1] := by simp [keys]
      rw [putAll_concat, keys_put, ih, hkeys, List.eraseDups_append]
      by_cases h : e.1 ∈ keys es
      · simp [List.cons_removeAll, h]
      · simp [List.cons_removeAll, h, List.eraseDups_cons]

theorem nodup_keys_putAll (es : Entries β) : (putAll [] es).keys.Nodup := by
  induction es using List.reverseRecOn with
  | nil => exact List.nodup_nil
  | append_singleton es e ih =>
      rw [putAll_concat, keys_put]
      split
      · exact ih
      · next h =>
          refine List.nodup_append.2 ⟨ih, by simp, ?_⟩
          rintro name hname _ hlast rfl
          exact h (List.mem_singleton.1 hlast ▸ hname)

theorem get?_putAll (es : Entries β) (name : String) :
    (putAll [] es).get? name = get? es.reverse name := by
  induction es using List.reverseRecOn with
  | nil => rfl
  | append_singleton es e ih =>
      rw [putAll_concat, get?_put, ih, List.reverse_append]
      rfl

/-- The names in the order of their first use, each with what it is used for last. -/
def latest [Inhabited β] (es : Entries β) : Entries β :=
  es.keys.eraseDups.map fun name => (name, (get? es.reverse name).getD default)

theorem keys_latest [Inhabited β] (es : Entries β) : es.latest.keys = es.keys.eraseDups := by
  simp [latest, keys, Function.comp_def]

theorem get?_map_pair {names : List String} (f : String → β) {name : String} (h : name ∈ names) :
    get? (names.map fun name => (name, f name)) name = some (f name) := by
  induction names with
  | nil => simp at h
  | cons other names ih =>
      by_cases ho : other = name
      · simp [get?_cons, ho]
      · have hmem : name ∈ names := (List.mem_cons.1 h).resolve_left (Ne.symm ho)
        simpa [get?_cons, ho] using ih hmem

theorem get?_latest [Inhabited β] (es : Entries β) (name : String) :
    es.latest.get? name = get? es.reverse name := by
  have hkeys : keys es.reverse = es.keys.reverse := List.map_reverse
  by_cases h : name ∈ es.keys
  · have hsome : (get? es.reverse name).isSome := by
      rw [← Option.ne_none_iff_isSome, ne_eq, get?_eq_none_iff, hkeys]
      simpa using h
    obtain ⟨v, hv⟩ := Option.isSome_iff_exists.1 hsome
    rw [latest, get?_map_pair _ (List.mem_eraseDups.2 h), hv, Option.getD_some]
  · rw [(get?_eq_none_iff es.latest name).2 (by simpa [keys_latest] using h),
      (get?_eq_none_iff es.reverse name).2 (by simpa [hkeys] using h)]

/-- Setting entries one after the other keeps of each name the first position and
the last value. -/
theorem putAll_eq_latest [Inhabited β] (es : Entries β) : putAll [] es = es.latest := by
  refine ext_get? ?_ (nodup_keys_putAll es) fun name => ?_
  · rw [keys_putAll, keys_latest]
  · rw [get?_putAll, get?_latest]

end Entries

/-- What is put into one slot, with all that is inside of it. -/
inductive Item where
  | value (g : Generated)
  | object (fields : List (String × Item))
  | array (items : List Item)
  | subtree (s : Subtree)
  | repeated (c : Cardinality) (element : Subtree)

namespace Item

mutual

/-- Calls that put an item into a slot of the current container. -/
inductive Spelled (config : Config) : Slot → Item → List Op → Prop
  | put (call : String) (slot : Slot) {g : Generator} {v : Generated}
    (h : g.make config = .ok v) : Spelled config slot (.value v) [.put call slot g]
  | named (call : String) {name : String} {slot : Slot} {g : Generator} {v : Generated}
    (h : g.make config = .ok v) (hslot : slot = .key name ∨ slot = .next) :
    Spelled config slot (.value v) [.putNamed call name g]
  | add (slot : Slot) {g : Generator} {v : Generated} (h : g.make config = .ok v) :
    Spelled config slot (.value v) [.add slot g]
  | object (call call' : String) {expected? : Option Kind} (slot : Slot)
    {fields : List (String × Item)} {ops : List Op} (hk : ∀ k ∈ expected?, k = .object)
    (h : FieldsSpelled config fields ops) :
    Spelled config slot (.object fields)
      (.opening call .object slot :: (ops ++ [.closing call' expected?]))
  | array (call call' : String) {expected? : Option Kind} (slot : Slot) {items : List Item}
    {ops : List Op} (hk : ∀ k ∈ expected?, k = .array) (h : ElementsSpelled config items ops) :
    Spelled config slot (.array items)
      (.opening call .array slot :: (ops ++ [.closing call' expected?]))
  | subtree (slot : Slot) (s : Subtree) : Spelled config slot (.subtree s) [.graft slot s]
  | repeated (slot : Slot) {c : Cardinality} {element : Element} {s : Subtree}
    (hc : c.check = .ok ()) (h : element.realize config = .ok s) :
    Spelled config slot (.repeated c s) [.arrayLike slot c element]

inductive FieldsSpelled (config : Config) : List (String × Item) → List Op → Prop
  | nil : FieldsSpelled config [] []
  | cons {key : String} {item : Item} {fields : List (String × Item)} {ops ops' : List Op}
    (h : Spelled config (.key key) item ops) (hs : FieldsSpelled config fields ops') :
    FieldsSpelled config ((key, item) :: fields) (ops ++ ops')

inductive ElementsSpelled (config : Config) : List Item → List Op → Prop
  | nil : ElementsSpelled config [] []
  | cons {item : Item} {items : List Item} {ops ops' : List Op}
    (h : Spelled config .next item ops) (hs : ElementsSpelled config items ops') :
    ElementsSpelled config (item :: items) (ops ++ ops')

end

mutual

def document (config : Config) : Item → Json
  | .value g => g.value
  | .object fields => .obj (Entries.latest (fieldDocuments config fields))
  | .array items => .arr (documents config items)
  | .subtree s => s.document
  | .repeated c s => .arr (List.replicate (c.examples?.getD config.samples.examples) s.document)

def fieldDocuments (config : Config) : List (String × Item) → Entries Json
  | [] => []
  | (key, item) :: fields => (key, item.document config) :: fieldDocuments config fields

def documents (config : Config) : List Item → List Json
  | [] => []
  | item :: items => item.document config :: documents config items

end

mutual

def notes : Item → List Note
  | .value g => g.notes
  | .object fields => fieldNotes fields
  | .array items => elementNotes 0 items
  | .subtree s => s.registry.notes
  | .repeated c s => c.notes s

def fieldNotes : List (String × Item) → List Note
  | [] => []
  | (key, item) :: fields => item.notes.map (Note.under [.key key]) ++ fieldNotes fields

/-- The rules of the items of an array, the first of which is at position `i`. -/
def elementNotes (i : Nat) : List Item → List Note
  | [] => []
  | item :: items => item.notes.map (Note.under [.index i]) ++ elementNotes (i + 1) items

end

theorem rooted_fieldNotes (fields : List (String × Item)) :
    ∀ n ∈ fieldNotes fields, Registry.Rooted n.1 := by
  induction fields with
  | nil => simp [fieldNotes]
  | cons e fields ih =>
      intro n hn
      rcases List.mem_append.1 hn with hn | hn
      · obtain ⟨m, -, rfl⟩ := List.mem_map.1 hn
        exact Registry.rooted_reroot _ m.1
      · exact ih n hn

theorem rooted_elementNotes (i : Nat) (items : List Item) :
    ∀ n ∈ elementNotes i items, Registry.Rooted n.1 := by
  induction items generalizing i with
  | nil => simp [elementNotes]
  | cons item items ih =>
      intro n hn
      rcases List.mem_append.1 hn with hn | hn
      · obtain ⟨m, -, rfl⟩ := List.mem_map.1 hn
        exact Registry.rooted_reroot _ m.1
      · exact ih (i + 1) n hn

/-! ## What the calls do -/

mutual

theorem Spelled.map_rebase {config : Config} {slot : Slot} {item : Item} {ops : List Op}
    (p : Path) : Spelled config slot item ops → ops.map (Op.rebase p) = ops
  | .put .. | .named .. | .add .. | .subtree .. | .repeated .. => rfl
  | .object _ _ _ _ h => by simp [Op.rebase, h.map_rebase p]
  | .array _ _ _ _ h => by simp [Op.rebase, h.map_rebase p]

theorem FieldsSpelled.map_rebase {config : Config} {fields : List (String × Item)}
    {ops : List Op} (p : Path) : FieldsSpelled config fields ops → ops.map (Op.rebase p) = ops
  | .nil => rfl
  | .cons h hs => by rw [List.map_append, h.map_rebase p, hs.map_rebase p]

theorem ElementsSpelled.map_rebase {config : Config} {items : List Item} {ops : List Op}
    (p : Path) : ElementsSpelled config items ops → ops.map (Op.rebase p) = ops
  | .nil => rfl
  | .cons h hs => by rw [List.map_append, h.map_rebase p, hs.map_rebase p]

end

end Item

namespace Builder

variable {b b' : Builder}

theorem runStrict_singleton_eq_ok_iff {op : Op} :
    b.runStrict [op] = .ok b' ↔ op.run b = ⟨b', none⟩ := by
  simp [runStrict_cons_eq_ok_iff, runStrict_nil]

theorem runStrict_of_does {op : Op} {d : Deed} (hp : b.poisoned = false) (hd : op.Does b d)
    (h : b.perform? d = some b') : b.runStrict [op] = .ok b' :=
  runStrict_singleton_eq_ok_iff.2 (Op.run_eq_ok_iff.2 ⟨hp, d, hd, h⟩)

theorem Framed.of_frames_eq_nil (hf : b.frames = []) (hk : b.document.kind? = some b.rootKind) :
    b.Framed where
  kindAt := by
    intro f hmem
    obtain rfl : f = b.rootFrame := by simpa [openFrames, hf] using hmem
    exact hk
  chain := by simp [openFrames, hf]

/-- Where nothing is open, what is put into a slot is put into the document itself. -/
theorem perform_write_root (hf : b.frames = []) {slot : Slot} {v j : Json} {s : Segment}
    (hins : b.document.insert? slot v = some (j, s)) (notes : List Note) :
    b.perform? (.write slot v notes none) =
      some { b with
        document := j
        registry := b.registry.pushAll (notes.map (Note.under [s])) } := by
  have hpath : b.current.path = [] := by simp [current, hf, rootFrame, Path.root]
  simp [perform?, Json.insertAt?, hpath, hins, Json.set?, Path.extend]

theorem perform_write_grouped (slot : Slot) (v : Json) {notes : List Note}
    (hn : ∀ n ∈ notes, Registry.Rooted n.1) (opens? : Option Kind) :
    b.perform? (.write slot v (({} : Registry).pushAll notes).notes opens?) =
      b.perform? (.write slot v notes opens?) := by
  simp only [perform?, Registry.pushAll_notes_pushAll b.registry .empty _ hn]
  rfl

end Builder

namespace Item

open Builder

mutual

/-- Calls that spell an item do what writing its document with its notes does. -/
theorem Spelled.runStrict {b b' : Builder} {slot : Slot} {item : Item} {ops : List Op}
    (hb : b.Framed) (hp : b.poisoned = false) :
    Spelled b.config slot item ops →
      b.perform? (.write slot (item.document b.config) item.notes none) = some b' →
      slot.kind = b.current.kind → b.runStrict ops = .ok b'
  | .put call slot hv, h, _ => runStrict_of_does hp (.put call slot hv) h
  | .named call hv hslot, h, hk => by
      rename_i name g v
      have hdefault : b.defaultSlot name = slot := by
        rcases hslot with rfl | rfl <;> simp [defaultSlot, ← hk, Slot.kind]
      exact runStrict_of_does hp (.putNamed call name hv) (hdefault ▸ h)
  | .add slot hv, h, _ => runStrict_of_does hp (.add slot hv) h
  | .subtree slot s, h, _ => runStrict_of_does hp (.graft slot s) h
  | .repeated slot hc hs, h, _ => runStrict_of_does hp (.arrayLike slot hc hs) h
  | .object call call' slot hk hs, h, _ => by
      rename_i fields ops _
      have hrun := hs.runStrict (c := new .object b.config) rfl rfl rfl rfl rfl
      -- The calls inside are run by themselves, and then in place: `runStrict_inline`.
      have hwrite := (perform_write_grouped (b := b) slot
        (.obj (Entries.latest (fieldDocuments b.config fields))) (rooted_fieldNotes fields)
        none).trans h
      rw [← Entries.putAll_eq_latest] at hwrite
      obtain ⟨host, hopen, hrest⟩ := runStrict_inline call call' hb hp hk hrun rfl hwrite
      rw [hs.map_rebase] at hrest
      exact runStrict_cons_eq_ok_iff.2 ⟨host, hopen, hrest⟩
  | .array call call' slot hk hs, h, _ => by
      rename_i items ops _
      have hrun := hs.runStrict (c := new .array b.config) rfl rfl rfl rfl rfl
      have hwrite := (perform_write_grouped (b := b) slot
        (.arr (documents b.config items)) (rooted_elementNotes 0 items) none).trans h
      obtain ⟨host, hopen, hrest⟩ := runStrict_inline call call' hb hp hk hrun rfl hwrite
      rw [hs.map_rebase] at hrest
      exact runStrict_cons_eq_ok_iff.2 ⟨host, hopen, hrest⟩

theorem FieldsSpelled.runStrict {config : Config} {fields : List (String × Item)}
    {ops : List Op} {c : Builder} {es : Entries Json} :
    FieldsSpelled config fields ops → c.config = config → c.poisoned = false →
      c.rootKind = .object → c.frames = [] → c.document = .obj es →
      c.runStrict ops = .ok { c with
        document := .obj (es.putAll (fieldDocuments config fields))
        registry := c.registry.pushAll (fieldNotes fields) }
  | .nil, _, _, _, _, hdoc => by
      rw [runStrict_nil]
      simp [Entries.putAll, fieldDocuments, fieldNotes, ← hdoc]
  | .cons h hs, hconfig, hp, hkind, hframes, hdoc => by
      rename_i key item fields ops ops'
      subst hconfig
      have hb : c.Framed := .of_frames_eq_nil hframes (by rw [hdoc, hkind]; rfl)
      have hslot : (Slot.key key).kind = c.current.kind := by
        simp [current, hframes, rootFrame, hkind, Slot.kind]
      have hins : c.document.insert? (.key key) (item.document c.config) =
          some (.obj (es.put key (item.document c.config)), .key key) := by rw [hdoc]; rfl
      have hwrite := perform_write_root hframes hins item.notes
      refine runStrict_append_eq_ok_iff.2 ⟨_, h.runStrict hb hp hwrite hslot, ?_⟩
      rw [fieldNotes, Registry.pushAll_append]
      exact hs.runStrict rfl hp hkind hframes rfl

theorem ElementsSpelled.runStrict {config : Config} {items : List Item}
    {ops : List Op} {c : Builder} {vs : List Json} :
    ElementsSpelled config items ops → c.config = config → c.poisoned = false →
      c.rootKind = .array → c.frames = [] → c.document = .arr vs →
      c.runStrict ops = .ok { c with
        document := .arr (vs ++ documents config items)
        registry := c.registry.pushAll (elementNotes vs.length items) }
  | .nil, _, _, _, _, hdoc => by
      rw [runStrict_nil]
      simp [documents, elementNotes, ← hdoc]
  | .cons h hs, hconfig, hp, hkind, hframes, hdoc => by
      rename_i item items ops ops'
      subst hconfig
      have hb : c.Framed := .of_frames_eq_nil hframes (by rw [hdoc, hkind]; rfl)
      have hslot : Slot.next.kind = c.current.kind := by
        simp [current, hframes, rootFrame, hkind, Slot.kind]
      have hins : c.document.insert? .next (item.document c.config) =
          some (.arr (vs ++ [item.document c.config]), .index vs.length) := by rw [hdoc]; rfl
      have hwrite := perform_write_root hframes hins item.notes
      refine runStrict_append_eq_ok_iff.2 ⟨_, h.runStrict hb hp hwrite hslot, ?_⟩
      -- The items that are left start behind one element more.
      have hrest := hs.runStrict (c := { c with
        document := .arr (vs ++ [item.document c.config])
        registry := c.registry.pushAll (item.notes.map (Note.under [.index vs.length])) })
        rfl hp hkind hframes rfl
      simpa [documents, elementNotes, Registry.pushAll_append] using hrest

end

/-! ## The places of items -/

/-- An item has another one inside of it at a path. -/
inductive Has : Item → Path → Item → Prop
  | self (item : Item) : Has item [] item
  | field {fields : List (String × Item)} {key : String} {inner item : Item} {p : Path}
    (hi : (key, inner) ∈ fields) (h : Has inner p item) : Has (.object fields) (.key key :: p) item
  | element {items : List Item} {i : Nat} {inner item : Item} {p : Path}
    (hi : items[i]? = some inner) (h : Has inner p item) : Has (.array items) (.index i :: p) item

theorem under_mem_fieldNotes {fields : List (String × Item)} {key : String} {item : Item}
    {n : Note} (hi : (key, item) ∈ fields) (hn : n ∈ item.notes) :
    n.under [.key key] ∈ fieldNotes fields := by
  induction fields with
  | nil => cases hi
  | cons e fields ih =>
      rcases List.mem_cons.1 hi with rfl | hi
      · exact List.mem_append_left _ (List.mem_map_of_mem hn)
      · exact List.mem_append_right _ (ih hi)

theorem under_mem_elementNotes {items : List Item} {i j : Nat} {item : Item} {n : Note}
    (hi : items[i]? = some item) (hn : n ∈ item.notes) :
    n.under [.index (j + i)] ∈ elementNotes j items := by
  induction items generalizing i j with
  | nil => cases hi
  | cons first items ih =>
      cases i with
      | zero =>
          obtain rfl : first = item := by simpa using hi
          exact List.mem_append_left _ (List.mem_map_of_mem hn)
      | succ i =>
          have hmem := ih (i := i) (j := j + 1) (by simpa using hi)
          rw [Nat.add_right_comm] at hmem
          exact List.mem_append_right _ hmem

/-- The notes of an item are notes of all that it is inside of. They are at their
place wherever that is put. -/
theorem Has.under_mem_notes {item inner : Item} {q : Path} {n : Note} (h : item.Has q inner)
    (hn : n ∈ inner.notes) (p : Path) : n.under (p ++ q) ∈ item.notes.map (Note.under p) := by
  induction h generalizing p with
  | self item => simpa using List.mem_map_of_mem hn
  | @field fields key inner item q hi h ih =>
      obtain ⟨m, hm, hmn⟩ := List.mem_map.1 (ih hn (p.extend (.key key)))
      refine List.mem_map.2 ⟨m.under [.key key], under_mem_fieldNotes hi hm, ?_⟩
      rw [Note.under_under]
      simpa [Path.extend] using hmn
  | @element items i inner item q hi h ih =>
      obtain ⟨m, hm, hmn⟩ := List.mem_map.1 (ih hn (p.extend (.index i)))
      refine List.mem_map.2 ⟨m.under [.index i], ?_, ?_⟩
      · simpa [notes] using under_mem_elementNotes (j := 0) hi hm
      · rw [Note.under_under]
        simpa [Path.extend] using hmn

end Item

open Builder Item

/-- Calls that spell a tree build the tree. Wherever its slot fits, they all get
through and leave open what was open before them. The slot has the document of the
item then; all nodes off the way to it are as they were, and the nodes on the way
have got no step but that to the slot. The registry has got the notes of the item
below the path of the slot, so that each value with a rule has it at its place. -/
theorem calls_build_tree {b : Builder} {slot : Slot} {item : Item} {ops : List Op}
    (hb : b.Reachable) (hp : b.poisoned = false) (hslot : slot.kind = b.current.kind)
    (hops : Spelled b.config slot item ops) :
    ∃ (b' : Builder) (s : Segment),
      b.runStrict ops = .ok b' ∧
      b'.depth = b.depth ∧ b'.current = b.current ∧
      b.slotPath? slot = some (b.current.path.extend s) ∧
      b'.document.at? (b.current.path.extend s) = some (item.document b.config) ∧
      (∀ q, ¬ b.current.path.extend s <+: q → ¬ q <+: b.current.path →
        b'.document.at? q = b.document.at? q) ∧
      (∀ q, q <+: b.current.path →
        b'.document.kindAt? q = b.document.kindAt? q ∧
        b'.document.stepsAt? q =
          if q = b.current.path then (b.document.stepsAt? q).map (Json.addStep s)
          else b.document.stepsAt? q) ∧
      b'.registry =
        b.registry.pushAll (item.notes.map (Note.under (b.current.path.extend s))) ∧
      ∀ q g rule, item.Has q (.value g) → g.rule? = some rule →
        ∃ rules, b'.registry.at? (b.current.path.extend s ++ q) = some rules ∧ rule ∈ rules := by
  have hframed : b.Framed := .of_reachable hb
  obtain ⟨b', hwrite⟩ :=
    exists_perform_write hframed hslot (item.document b.config) item.notes none
  have hrun := hops.runStrict hframed hp hwrite hslot
  obtain ⟨document, p, hins, rfl⟩ := perform?_write_eq_some_iff.1 hwrite
  have hpath := slotPath?_of_insertAt? hins
  obtain ⟨c, s, -, -, rfl, hput⟩ := Json.insertAt?_eq_some_iff.1 hins
  refine ⟨_, s, hrun, rfl, rfl, hpath, Json.at?_putAt?_self hput, ?_, ?_, rfl, ?_⟩
  · exact fun q hq hon => Json.at?_putAt?_of_not_prefix hput hq hon
  · exact fun q hq => Json.nodes_on_way_putAt? hput hq
  · intro q g rule hq hrule
    have hnote : rule.note ∈ (Item.value g).notes := by
      simp [Item.notes, Generated.notes, hrule]
    have hmem := hq.under_mem_notes hnote (b.current.path.extend s)
    rw [Rule.under_note] at hmem
    exact Registry.exists_mem_get?_pushAll b.registry hmem

def startedList : Builder := (new .object {}).after [.pushArray (.key "xs"), .nullValue .next]

/-- An object with a key that comes up twice, and with arrays inside of it. -/
def revised : Item :=
  .object
    [("a", .value (.exact .null)),
      ("b", .array [.value (.exact .null),
        .repeated (.atLeast 1) (.ofGenerated (.matched (.bool true) .exactType))]),
      ("a", .value (.matched (.str "x") .exactType))]

def revising : List Op :=
  [.pushObject .next, .nullValue (.key "a"), .pushArray (.key "b"), .nullValue .next,
    .minArrayLike .next 1 (.value (.boolean (some true))), .closeArray,
    .stringType (.key "a") (some "x"), .pop]

theorem spelled_revised : Spelled startedList.config .next revised revising := by
  have hfirst : Spelled startedList.config (.key "a") (.value (.exact .null))
      [.nullValue (.key "a")] := .put _ _ rfl
  have helement : Spelled startedList.config .next
      (.repeated (.atLeast 1) (.ofGenerated (.matched (.bool true) .exactType)))
      [.minArrayLike .next 1 (.value (.boolean (some true)))] := .repeated _ rfl rfl
  have hnull : Spelled startedList.config .next (.value (.exact .null)) [.nullValue .next] :=
    .put _ _ rfl
  have hlast : Spelled startedList.config (.key "a") (.value (.matched (.str "x") .exactType))
      [.stringType (.key "a") (some "x")] := .put _ _ rfl
  have hlist := Spelled.array "push_array" "close_array" (.key "b")
    (by simp : ∀ k ∈ some Kind.array, k = .array) (.cons hnull (.cons helement .nil))
  exact .object "push_object" "pop" .next (by simp : ∀ k ∈ none, k = Kind.object)
    (.cons hfirst (.cons hlist (.cons hlast .nil)))

theorem calls_build_tree_of_revised :
    startedList.Reachable ∧ Spelled startedList.config .next revised revising ∧
    ∃ b', startedList.runStrict revising = .ok b' ∧ b'.current = ⟨.array, [.key "xs"]⟩ ∧
      b'.document.at? [.key "xs", .index 1] =
        some (.obj [("a", .str "x"), ("b", .arr [.null, .arr (List.replicate 1 (.bool true))])]) ∧
      b'.document.at? [.key "xs", .index 0] = some .null ∧
      ∃ rules, b'.registry.at? [.key "xs", .index 1, .key "a"] = some rules ∧
        .exactType ∈ rules := by
  have hb : startedList.Reachable := ⟨.object, {}, _, rfl⟩
  obtain ⟨b', s, hrun, -, hcurrent, hpath, hat, hoff, -, -, hrules⟩ :=
    calls_build_tree hb rfl (rfl : Slot.next.kind = .array) spelled_revised
  obtain rfl : s = .index 1 := by
    have h : some [.key "xs", .index 1] = some ([.key "xs"] ++ [s]) := hpath
    simpa using h.symm
  have hplace : revised.Has [.key "a"] (.value (.matched (.str "x") .exactType)) :=
    .field (by simp) (.self _)
  exact ⟨hb, spelled_revised, b', hrun, hcurrent, hat,
    hoff [.key "xs", .index 0] (by decide) (by decide), hrules _ _ _ hplace rfl⟩

end Exemplar
