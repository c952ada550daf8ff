/-!
# Entries in order of first use

The fields of a document's object and the rules of a registry are both read
back in the order in which their names first came up, so both are lists of
named entries. `Entries.alter` is the one way to change such a list: a name
that is already there keeps its position, a new one goes to the end. Setting a
field and adding to a list of rules are instances of it, and what a list looks
like afterwards is said once, by `keys_alter` and `get?_alter`.
-/

namespace Exemplar

/-- Named entries, in the order in which their names first came up. -/
abbrev Entries (β : Type _) := List (String × β)

namespace Entries

variable {β : Type _}

def keys (es : Entries β) : List String :=
  es.map Prod.fst

def get? : Entries β → String → Option β
  | [], _ => none
  | (k, v) :: es, name => if k = name then some v else get? es name

/-- Change the entry under `name`, or append one if there is none. -/
def alter (name : String) (f : Option β → β) : Entries β → Entries β
  | [] => [(name, f none)]
  | (k, v) :: es => if k = name then (k, f (some v)) :: es else (k, v) :: alter name f es

def put (es : Entries β) (name : String) (v : β) : Entries β :=
  es.alter name fun _ => v

@[simp] theorem keys_nil : keys ([] : Entries β) = [] := rfl

@[simp] theorem keys_cons (k : String) (v : β) (es : Entries β) :
    keys ((k, v) :: es) = k :: keys es := rfl

@[simp] theorem get?_nil (name : String) : get? ([] : Entries β) name = none := rfl

theorem get?_cons (k : String) (v : β) (es : Entries β) (name : String) :
    get? ((k, v) :: es) name = if k = name then some v else get? es name := rfl

/-- A name that is there keeps its position, a new one is the last. -/
theorem keys_alter (name : String) (f : Option β → β) (es : Entries β) :
    keys (es.alter name f) = if name ∈ keys es then keys es else keys es ++ [name] := by
  induction es with
  | nil => simp [alter]
  | cons e es ih =>
    obtain ⟨k, v⟩ := e
    by_cases h : k = name
    · simp [alter, h]
    · have h' : ¬ name = k := fun e => h e.symm
      by_cases hm : name ∈ keys es <;> simp [alter, h, h', ih, hm]

theorem get?_alter (name : String) (f : Option β → β) (es : Entries β) (other : String) :
    get? (es.alter name f) other =
      if name = other then some (f (get? es name)) else get? es other := by
  induction es with
  | nil => simp [alter, get?_cons]
  | cons e es ih =>
    obtain ⟨k, v⟩ := e
    by_cases h : k = name
    · subst h
      by_cases ho : k = other <;> simp [alter, get?_cons, ho]
    · by_cases ho : name = other
      · subst ho
        simp [alter, get?_cons, h, ih]
      · simp only [alter, if_neg h, get?_cons, ih, if_neg ho]

theorem get?_put (es : Entries β) (name : String) (v : β) (other : String) :
    get? (es.put name v) other = if name = other then some v else get? es other :=
  get?_alter name (fun _ => v) es other

theorem keys_put (es : Entries β) (name : String) (v : β) :
    keys (es.put name v) = if name ∈ keys es then keys es else keys es ++ [name] :=
  keys_alter name (fun _ => v) es

theorem get?_eq_none_iff (es : Entries β) (name : String) :
    get? es name = none ↔ name ∉ keys es := by
  induction es with
  | nil => simp
  | cons e es ih =>
    obtain ⟨k, v⟩ := e
    by_cases h : k = name
    · simp [get?_cons, h]
    · have h' : ¬ name = k := fun e => h e.symm
      simp [get?_cons, h, h', ih]

end Entries

end Exemplar
