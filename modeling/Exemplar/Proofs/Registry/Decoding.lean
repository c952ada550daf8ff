import Exemplar.Registry

/-!
# The JSON form can be read back

`Rule.ofJson?` reads a rule from its JSON form and `Registry.ofJson?` a registry. Both
are exact: they read what is the form of something, as what it is the form of, and
nothing else. So two rules with one form are one rule, and the form of a registry has
all paths in order with all of their rules.

A check alone does not say which rule it stands for, as three of them are called `type`;
together with the names of the arguments it does. The names count in the order in which
they are written.
-/

namespace Exemplar

namespace Rule

mutual

def ofJson? : Json → Option Rule
  | .obj (("match", .str check) :: arguments) =>
    match check, arguments with
    | "type", [] => some .exactType
    | "type", [("min", .num (.int (.ofNat n)))] => some (.minLength n)
    | "type", [("max", .num (.int (.ofNat n)))] => some (.maxLength n)
    | "regex", [("regex", .str pattern)] => some (.regex pattern)
    | "integer", [] => some (.number .integer)
    | "decimal", [] => some (.number .decimal)
    | "number", [] => some (.number .number)
    | "date", [("format", .str pattern)] => some (.format .date pattern)
    | "time", [("format", .str pattern)] => some (.format .time pattern)
    | "timestamp", [("format", .str pattern)] => some (.format .datetime pattern)
    | "include", [("value", .str text)] => some (.includes text)
    | "expression", [("expression", .str text), ("format", .str pattern)] =>
      some (.expression text pattern)
    | "eachKey", [("rules", .arr rules)] => (ofJsonList? rules).map (.eachKey · none)
    | "eachKey", [("rules", .arr rules), ("value", .str value)] =>
      (ofJsonList? rules).map (.eachKey · (some value))
    | _, _ => none
  | _ => none

def ofJsonList? : List Json → Option (List Rule)
  | [] => some []
  | j :: js => (ofJson? j).bind fun rule => (ofJsonList? js).map (rule :: ·)

end

mutual

theorem ofJson?_toJson : (rule : Rule) → ofJson? rule.toJson = some rule
  | .exactType | .regex _ | .minLength _ | .maxLength _ | .includes _ | .expression .. => rfl
  | .number kind => by cases kind <;> rfl
  | .format part _ => by cases part <;> rfl
  | .eachKey rules none => by
      simp [toJson, fields, ofJson?, ofJsonList?_toJsonList rules]
  | .eachKey rules (some value) => by
      simp [toJson, fields, ofJson?, ofJsonList?_toJsonList rules]

theorem ofJsonList?_toJsonList :
    (rules : List Rule) → ofJsonList? (toJsonList rules) = some rules
  | [] => rfl
  | rule :: rules => by
      rw [toJsonList, ofJsonList?, ofJson?_toJson rule, ofJsonList?_toJsonList rules]
      rfl

end

mutual

/-- What can be read is the form of what it is read as. -/
theorem toJson_of_ofJson? {j : Json} {rule : Rule} (h : ofJson? j = some rule) :
    rule.toJson = j := by
  unfold ofJson? at h
  split at h
  · split at h
    case h_13 rules =>
      obtain ⟨rs, hrs, rfl⟩ := Option.map_eq_some_iff.1 h
      rw [toJson, toJsonList_of_ofJsonList? hrs, fields]
    case h_14 rules value =>
      obtain ⟨rs, hrs, rfl⟩ := Option.map_eq_some_iff.1 h
      rw [toJson, toJsonList_of_ofJsonList? hrs, fields]
    case h_15 => cases h
    all_goals
      cases h
      rfl
  · cases h

theorem toJsonList_of_ofJsonList? {js : List Json} {rules : List Rule}
    (h : ofJsonList? js = some rules) : toJsonList rules = js := by
  unfold ofJsonList? at h
  split at h
  · cases h
    rfl
  · next j js =>
      obtain ⟨rule, hj, h⟩ := Option.bind_eq_some_iff.1 h
      obtain ⟨rest, hjs, rfl⟩ := Option.map_eq_some_iff.1 h
      rw [toJsonList, toJson_of_ofJson? hj, toJsonList_of_ofJsonList? hjs]

end

theorem ofJson?_eq_some_iff {j : Json} {rule : Rule} :
    ofJson? j = some rule ↔ j = rule.toJson := by
  constructor
  · exact fun h => (toJson_of_ofJson? h).symm
  · rintro rfl
    exact ofJson?_toJson rule

theorem ofJsonList?_eq_some_iff {js : List Json} {rules : List Rule} :
    ofJsonList? js = some rules ↔ js = rules.map toJson := by
  rw [← toJsonList_eq_map]
  constructor
  · exact fun h => (toJsonList_of_ofJsonList? h).symm
  · rintro rfl
    exact ofJsonList?_toJsonList rules

end Rule

namespace Registry

def rulesOfJson? : Json → Option (List Rule)
  | .obj [("combine", .str "AND"), ("matchers", .arr js)] => Rule.ofJsonList? js
  | _ => none

def entriesOfJson? : Entries Json → Option (Entries (List Rule))
  | [] => some []
  | (form, j) :: fields =>
    (rulesOfJson? j).bind fun rules => (entriesOfJson? fields).map ((form, rules) :: ·)

def ofJson? : Json → Option Registry
  | .obj fields => (entriesOfJson? fields).map Registry.mk
  | _ => none

theorem rulesOfJson?_eq_some_iff {j : Json} {rules : List Rule} :
    rulesOfJson? j = some rules ↔
      j = .obj [("combine", .str "AND"), ("matchers", .arr (rules.map Rule.toJson))] := by
  constructor
  · intro h
    unfold rulesOfJson? at h
    split at h
    · rw [Rule.ofJsonList?_eq_some_iff.1 h]
    · cases h
  · rintro rfl
    exact Rule.ofJsonList?_eq_some_iff.2 rfl

theorem entriesOfJson?_eq_some_iff {fields : Entries Json} {es : Entries (List Rule)} :
    entriesOfJson? fields = some es ↔ (Registry.mk es).toJson = .obj fields := by
  rw [toJson, Json.obj.injEq]
  induction fields generalizing es with
  | nil => rw [entriesOfJson?, Option.some.injEq, List.map_eq_nil_iff, eq_comm]
  | cons field fields ih =>
      obtain ⟨form, j⟩ := field
      simp only [entriesOfJson?, Option.bind_eq_some_iff, Option.map_eq_some_iff, ih,
        rulesOfJson?_eq_some_iff]
      constructor
      · rintro ⟨rules, rfl, rest, rfl, rfl⟩
        rfl
      · intro h
        obtain ⟨⟨form', rules⟩, rest, rfl, hentry, hrest⟩ := List.map_eq_cons_iff.1 h
        cases hentry
        exact ⟨rules, rfl, rest, hrest, rfl⟩

theorem ofJson?_eq_some_iff {j : Json} {r : Registry} : ofJson? j = some r ↔ j = r.toJson := by
  cases j with
  | obj fields =>
      rw [ofJson?, Option.map_eq_some_iff]
      constructor
      · rintro ⟨es, hes, rfl⟩
        exact (entriesOfJson?_eq_some_iff.1 hes).symm
      · intro h
        exact ⟨r.entries, entriesOfJson?_eq_some_iff.2 h.symm, rfl⟩
  | null | bool | num | str | arr => simp [ofJson?, toJson]

end Registry

/-- The JSON form of a rule can be read back as the rule, however deeply rules for keys
have rules inside of them, and nothing else can be read as a rule. The same holds for
registries: if two have one form, they have the same paths in the same order, and the
same rules in the same order at each of them. -/
theorem json_form_loses_nothing :
    (∀ (j : Json) (rule : Rule), Rule.ofJson? j = some rule ↔ j = rule.toJson) ∧
    (∀ (j : Json) (r : Registry), Registry.ofJson? j = some r ↔ j = r.toJson) ∧
    ∀ r r' : Registry, r.toJson = r'.toJson →
      r.paths = r'.paths ∧ ∀ form, r.get? form = r'.get? form := by
  refine ⟨fun _ _ => Rule.ofJson?_eq_some_iff, fun _ _ => Registry.ofJson?_eq_some_iff, ?_⟩
  intro r r' h
  have hr : Registry.ofJson? r.toJson = some r := Registry.ofJson?_eq_some_iff.2 rfl
  have hr' : Registry.ofJson? r.toJson = some r' := Registry.ofJson?_eq_some_iff.2 h
  obtain rfl : r = r' := Option.some.inj (hr.symm.trans hr')
  exact ⟨rfl, fun _ => rfl⟩

def keyRules : Rule :=
  .eachKey [.minLength 1, .eachKey [.regex "[a-z]+", .maxLength 8] (some "key"), .exactType] none

def placedRules : Registry :=
  ((({} : Registry).add [.key "a"] .exactType).add [.key "a", .key "b"] keyRules).add
    [.key "a"] (.minLength 1)

def mergedRules : Registry :=
  (({} : Registry).mergeAt [.key "a"] ((({} : Registry).add [] .exactType).add [.key "b"]
    keyRules)).extendAt [.key "a"] [.minLength 1]

theorem json_form_loses_nothing_of_merged :
    Rule.ofJson? keyRules.toJson = some keyRules ∧
    placedRules.toJson = mergedRules.toJson ∧ placedRules.paths = mergedRules.paths ∧
    placedRules.get? "$.a" = mergedRules.get? "$.a" := by
  have hform : placedRules.toJson = mergedRules.toJson := rfl
  obtain ⟨hpaths, hrules⟩ := json_form_loses_nothing.2.2 placedRules mergedRules hform
  exact ⟨(json_form_loses_nothing.1 _ _).2 rfl, hform, hpaths, hrules "$.a"⟩

end Exemplar
