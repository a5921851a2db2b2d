/-
  Proofs/Schema/Violations.lean --- which violation of a schema is reported.

  The rules for declarations are asked one by one, in one order for the whole
  schema: structs outside namespaces first, then the namespaces, each with its
  name in front of its structs.  A schema passes its check exactly if it keeps
  all of them; otherwise the first one that is broken is reported, so nothing
  behind it matters, and nothing that no rule is about (`check_verdict`).
-/
import TypeProjection.Proofs.Schema.Checking
import TypeProjection.Proofs.Traversal

set_option autoImplicit false

namespace TypeProjection

variable {schema : Schema}

/-! ## Rules -/

/-- A rule, as it is asked of something that is declared. -/
inductive Rule where
  /-- a namespace has a name -/
  | spaceNamed (name : String)
  /-- a struct has a name -/
  | structNamed (name : String)
  /-- the parent of a struct, if it has one, is not the struct itself -/
  | extendsOther (key : String) (parent : Option String)
  /-- a field of a struct has a name and a type -/
  | fieldNamed (key : String) (field : FieldDecl)
  /-- a field has a name that no field of the struct in front of it has -/
  | fieldNew (key : String) (earlier : List String) (name : String)
  deriving DecidableEq, Repr

/-- Whether a rule is broken. -/
def Rule.Broken : Rule → Prop
  | .spaceNamed name | .structNamed name => name = ""
  | .extendsOther key parent => parent = some key
  | .fieldNamed _ field => field.name = "" ∨ field.typeName = ""
  | .fieldNew _ earlier name => name ∈ earlier

instance : DecidablePred Rule.Broken := fun rule =>
  match rule with
  | .spaceNamed name | .structNamed name => inferInstanceAs (Decidable (name = ""))
  | .extendsOther key parent => inferInstanceAs (Decidable (parent = some key))
  | .fieldNamed _ field => inferInstanceAs (Decidable (field.name = "" ∨ field.typeName = ""))
  | .fieldNew _ earlier name => inferInstanceAs (Decidable (name ∈ earlier))

/-- What is told when a rule is broken; a struct is referred to by its qualified name. -/
def Rule.text : Rule → String
  | .spaceNamed _ => "Namespace with empty name"
  | .structNamed _ => "Struct with empty name"
  | .extendsOther key _ => "Struct '" ++ key ++ "' extends itself"
  | .fieldNamed key _ => "Field with empty name or type in struct '" ++ key ++ "'"
  | .fieldNew key _ name => "Duplicate field '" ++ name ++ "' in struct '" ++ key ++ "'"

/-- What breaking a rule is. -/
def Rule.violation : Rule → Violation
  | .spaceNamed _ => .unnamedNamespace
  | .structNamed _ => .unnamedStruct
  | .extendsOther key _ => .selfExtension key
  | .fieldNamed key _ => .unnamedField key
  | .fieldNew key _ name => .repeatedField name key

theorem Rule.message_violation (rule : Rule) : rule.violation.message = rule.text := by
  cases rule <;> rfl

/-- The rules for the fields of a struct, behind fields with the given names. -/
def fieldRules (key : String) (earlier : List String) : List FieldDecl → List Rule
  | [] => []
  | field :: fields =>
    .fieldNamed key field :: .fieldNew key earlier field.name ::
      fieldRules key (earlier ++ [field.name]) fields

/-- The rules for a struct with a qualified name. -/
def StructDecl.rules (decl : StructDecl) (key : String) : List Rule :=
  .structNamed decl.name :: .extendsOther key decl.parent ::
    fieldRules key [] (decl.fields.getD [])

/-- The rules for a namespace. -/
def NamespaceDecl.rules (space : NamespaceDecl) : List Rule :=
  .spaceNamed space.name ::
    space.structs.flatMap fun decl => decl.rules (space.name ++ "::" ++ decl.name)

/-- The rules for a schema, in the order in which they are asked. -/
def Schema.rules (schema : Schema) : List Rule :=
  (schema.structs.flatMap fun decl => decl.rules decl.name) ++
    schema.namespaces.flatMap NamespaceDecl.rules

/-! ## The first broken rule -/

/-- The violation of the first rule of a list that is broken. -/
def firstBroken? (rules : List Rule) : Option Violation :=
  (rules.find? (·.Broken)).map Rule.violation

theorem firstBroken?_cons (rule : Rule) (rules : List Rule) :
    firstBroken? (rule :: rules) =
      if rule.Broken then some rule.violation else firstBroken? rules := by
  by_cases h : rule.Broken <;> simp [firstBroken?, h]

theorem firstBroken?_append (rules rules' : List Rule) :
    firstBroken? (rules ++ rules') = (firstBroken? rules).or (firstBroken? rules') := by
  rw [firstBroken?, List.find?_append, Option.map_or]
  rfl

theorem firstBroken?_flatMap {α : Type} (f : α → List Rule) (xs : List α) :
    firstBroken? (xs.flatMap f) = xs.findSome? fun x => firstBroken? (f x) := by
  induction xs with
  | nil => rfl
  | cons x xs ih =>
    rw [List.flatMap_cons, firstBroken?_append, ih, List.findSome?_cons]
    cases firstBroken? (f x) <;> rfl

theorem firstBroken?_eq_some_iff {rules : List Rule} {violation : Violation} :
    firstBroken? rules = some violation ↔
      ∃ rule, IsFirst Rule.Broken rules rule ∧ rule.violation = violation := by
  induction rules with
  | nil => simp [firstBroken?, not_isFirst_nil]
  | cons rule rules ih =>
    simp only [firstBroken?_cons, isFirst_cons_iff]
    by_cases h : rule.Broken <;> simp [h, ih]

/-! ## The check asks the rules in order -/

/-- The check remembers the names of the fields so far in some order. -/
theorem fieldViolation?_eq {key : String} {seen earlier : List String} {fields : List FieldDecl}
    (h : ∀ name, name ∈ seen ↔ name ∈ earlier) :
    fieldViolation? key seen fields = firstBroken? (fieldRules key earlier fields) := by
  induction fields generalizing seen earlier with
  | nil => rfl
  | cons field fields ih =>
    have hnext : ∀ name, name ∈ field.name :: seen ↔ name ∈ earlier ++ [field.name] := by
      intro name
      rw [List.mem_cons, List.mem_append, List.mem_singleton, h, or_comm]
    rw [fieldViolation?, fieldRules, firstBroken?_cons, firstBroken?_cons, ← ih hnext]
    by_cases hempty : field.name = "" ∨ field.typeName = ""
    · simp [Rule.Broken, Rule.violation, hempty]
    · by_cases hseen : field.name ∈ earlier <;>
        simp [Rule.Broken, Rule.violation, hempty, h, hseen]

theorem StructDecl.violation?_eq (decl : StructDecl) (key : String) :
    decl.violation? key = firstBroken? (decl.rules key) := by
  rw [violation?, rules, firstBroken?_cons, firstBroken?_cons,
    ← fieldViolation?_eq (fun name => Iff.rfl)]
  rfl

theorem NamespaceDecl.violation?_eq (space : NamespaceDecl) :
    space.violation? = firstBroken? space.rules := by
  rw [violation?, rules, firstBroken?_cons, firstBroken?_flatMap]
  simp only [StructDecl.violation?_eq]
  rfl

theorem Schema.violation?_eq (schema : Schema) :
    schema.violation? = firstBroken? schema.rules := by
  have hspaces : NamespaceDecl.violation? = fun space => firstBroken? space.rules :=
    funext NamespaceDecl.violation?_eq
  rw [violation?, rules, firstBroken?_append, firstBroken?_flatMap, firstBroken?_flatMap, hspaces]
  simp only [StructDecl.violation?_eq]

theorem check_eq_error_iff {e : SchemaError} :
    schema.check = .error e ↔
      ∃ violation, schema.violation? = some violation ∧ e = .validation violation.message := by
  unfold Schema.check refuseIf
  cases schema.violation? <;> simp [eq_comm]

theorem check_eq_of_rules {schema' : Schema}
    (h : firstBroken? schema.rules = firstBroken? schema'.rules) :
    schema.check = schema'.check := by
  rw [Schema.check, Schema.check, Schema.violation?_eq, Schema.violation?_eq, h]

/-! ## Schemas that keep all rules -/

/-- What is asked of a struct with a qualified name. -/
structure StructDecl.KeepsRules (decl : StructDecl) (key : String) : Prop where
  /-- It has a name. -/
  named : decl.name ≠ ""
  /-- It does not extend itself. -/
  extendsOther : decl.parent ≠ some key
  /-- Its fields have names and types. -/
  fieldsNamed : ∀ f ∈ decl.fields.getD [], f.name ≠ "" ∧ f.typeName ≠ ""
  /-- No two of its fields have the same name. -/
  fieldsDistinct : ((decl.fields.getD []).map FieldDecl.name).Nodup

theorem StructDecl.violation?_eq_none_iff {decl : StructDecl} {key : String} :
    decl.violation? key = none ↔ decl.KeepsRules key := by
  unfold violation?
  split
  · rename_i hname
    exact ⟨nofun, fun h => absurd hname h.named⟩
  split
  · rename_i hparent
    exact ⟨nofun, fun h => absurd hparent h.extendsOther⟩
  · rename_i hname hparent
    rw [fieldViolation?_eq_none_iff]
    constructor
    · intro ⟨hnamed, hdistinct, _⟩
      exact ⟨hname, hparent, hnamed, hdistinct⟩
    · intro h
      exact ⟨h.fieldsNamed, h.fieldsDistinct, fun f _ => List.not_mem_nil⟩

theorem NamespaceDecl.violation?_eq_none_iff {space : NamespaceDecl} :
    space.violation? = none ↔
      space.name ≠ "" ∧
        ∀ decl ∈ space.structs, decl.KeepsRules (space.name ++ "::" ++ decl.name) := by
  unfold violation?
  split
  · rename_i hname
    exact ⟨nofun, fun h => absurd hname h.1⟩
  · rename_i hname
    simp only [List.findSome?_eq_none_iff, StructDecl.violation?_eq_none_iff]
    exact (and_iff_right hname).symm

/-- No rule is broken exactly if every namespace has a name and every declared struct keeps
the rules. -/
theorem Schema.violation?_eq_none_iff :
    schema.violation? = none ↔
      (∀ decl ∈ schema.structs, decl.KeepsRules decl.name) ∧
        ∀ space ∈ schema.namespaces, space.name ≠ "" ∧
          ∀ decl ∈ space.structs, decl.KeepsRules (space.name ++ "::" ++ decl.name) := by
  rw [violation?, Option.or_eq_none_iff, List.findSome?_eq_none_iff, List.findSome?_eq_none_iff]
  simp only [StructDecl.violation?_eq_none_iff, NamespaceDecl.violation?_eq_none_iff]

/-! ## What does not matter -/

/-- Two schemas declare the same structs in the same places: they differ at most in their
primitives, interfaces and enums and in the names that namespaces have on the native side. -/
structure Schema.SameStructs (schema schema' : Schema) : Prop where
  /-- The structs outside namespaces are the same. -/
  structs : schema.structs = schema'.structs
  /-- The namespaces have the same names and the same structs. -/
  namespaces : List.Forall₂ (fun space space' => space.name = space'.name ∧
    space.structs = space'.structs) schema.namespaces schema'.namespaces

/-- The rules for a namespace are about its name and its structs only. -/
theorem NamespaceDecl.rules_eq {space space' : NamespaceDecl} (hname : space.name = space'.name)
    (hstructs : space.structs = space'.structs) : space.rules = space'.rules := by
  simp only [rules, hname, hstructs]

theorem Schema.SameStructs.rules_eq {schema' : Schema} (h : schema.SameStructs schema') :
    schema.rules = schema'.rules := by
  obtain ⟨hstructs, hspaces⟩ := h
  rw [rules, rules, hstructs]
  generalize schema.namespaces = spaces, schema'.namespaces = spaces' at hspaces
  induction hspaces with
  | nil => rfl
  | cons hspace _ ih =>
    rw [List.flatMap_cons, List.flatMap_cons, NamespaceDecl.rules_eq hspace.1 hspace.2,
      List.append_cancel_left ih]

/-! ## The verdict -/

/-- A schema passes its check exactly if every namespace has a name and every struct, in a
namespace or in none, keeps the rules.  Otherwise the first rule that is broken is reported,
in the order in which they are asked.  So primitives, interfaces, enums and native names of
namespaces do not matter, and neither does what is declared behind a broken rule. -/
theorem check_verdict (schema : Schema) :
    (schema.check = .ok () ↔
      (∀ decl ∈ schema.structs, decl.KeepsRules decl.name) ∧
        ∀ space ∈ schema.namespaces, space.name ≠ "" ∧
          ∀ decl ∈ space.structs, decl.KeepsRules (space.name ++ "::" ++ decl.name)) ∧
    (∀ e, schema.check = .error e ↔
      ∃ rule, IsFirst Rule.Broken schema.rules rule ∧ e = .validation rule.text) ∧
    (∀ schema', schema.SameStructs schema' → schema.check = schema'.check) ∧
    ∀ (schema' : Schema) before rule after after', schema.rules = before ++ rule :: after →
      rule.Broken → schema'.rules = before ++ rule :: after' →
        schema.check = schema'.check := by
  refine ⟨check_eq_ok_iff.trans Schema.violation?_eq_none_iff, ?_, ?_, ?_⟩
  · intro e
    simp only [check_eq_error_iff, Schema.violation?_eq, firstBroken?_eq_some_iff]
    constructor
    · rintro ⟨-, ⟨rule, hfirst, rfl⟩, he⟩
      exact ⟨rule, hfirst, he.trans (congrArg _ rule.message_violation)⟩
    · rintro ⟨rule, hfirst, he⟩
      exact ⟨rule.violation, ⟨rule, hfirst, rfl⟩,
        he.trans (congrArg _ rule.message_violation.symm)⟩
  · intro schema' hsame
    exact check_eq_of_rules (congrArg firstBroken? hsame.rules_eq)
  · intro schema' before rule after after' hrules hbroken hrules'
    apply check_eq_of_rules
    rw [hrules, hrules', firstBroken?_append, firstBroken?_append, firstBroken?_cons,
      firstBroken?_cons, if_pos hbroken, if_pos hbroken]

/-- A namespace with a box that extends something and has two fields of one name. -/
def boxExtending (parent : String) : Schema where
  primitives := ["FLOAT"]
  structs := []
  namespaces := [⟨"Geo", "Api", [⟨"BOX", some parent, some [⟨"x", "FLOAT"⟩, ⟨"x", "FLOAT"⟩]⟩],
    [], []⟩]

/-- A box that extends itself is refused for that; one that extends another struct, for its
fields. -/
theorem check_verdict_box :
    (boxExtending "Geo::BOX").check =
        .error (.validation "Struct 'Geo::BOX' extends itself") ∧
      (boxExtending "BOX").check =
        .error (.validation "Duplicate field 'x' in struct 'Geo::BOX'") := by
  constructor
  · refine ((check_verdict (boxExtending "Geo::BOX")).2.1 _).2
      ⟨.extendsOther "Geo::BOX" (some "Geo::BOX"), ?_, rfl⟩
    exact ⟨[.spaceNamed "Geo", .structNamed "BOX"], _, rfl, by decide, rfl⟩
  · refine ((check_verdict (boxExtending "BOX")).2.1 _).2 ⟨.fieldNew "Geo::BOX" ["x"] "x", ?_, rfl⟩
    exact ⟨[.spaceNamed "Geo", .structNamed "BOX", .extendsOther "Geo::BOX" (some "BOX"),
      .fieldNamed "Geo::BOX" ⟨"x", "FLOAT"⟩, .fieldNew "Geo::BOX" [] "x",
      .fieldNamed "Geo::BOX" ⟨"x", "FLOAT"⟩], [], rfl, by decide, by decide⟩

end TypeProjection
