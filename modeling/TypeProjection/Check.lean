/-
  Check.lean --- the rules that declarations and emitted structs obey.

  A check looks for the first violation in a fixed order.
-/
import TypeProjection.Registry.Basic

set_option autoImplicit false

namespace TypeProjection

/-- A broken rule. -/
inductive Violation where
  /-- a namespace has no name -/
  | unnamedNamespace
  /-- a struct has no name -/
  | unnamedStruct
  /-- a struct extends itself -/
  | selfExtension (owner : String)
  /-- a field has no name or no type -/
  | unnamedField (owner : String)
  /-- two fields of a struct have the same name -/
  | repeatedField (field owner : String)
  /-- two fields of a struct have the same property -/
  | repeatedProperty (property owner : String)
  deriving DecidableEq, Repr, Inhabited

/-- What is told about a broken rule. -/
def Violation.message : Violation → String
  | .unnamedNamespace => "Namespace with empty name"
  | .unnamedStruct => "Struct with empty name"
  | .selfExtension owner => s!"Struct '{owner}' extends itself"
  | .unnamedField owner => s!"Field with empty name or type in struct '{owner}'"
  | .repeatedField field owner => s!"Duplicate field '{field}' in struct '{owner}'"
  | .repeatedProperty property owner =>
    s!"Property '{property}' appears more than once in struct '{owner}'"

/-- Refuses if there is a violation. -/
def refuseIf : Option Violation → Except SchemaError Unit
  | some violation => .error (.validation violation.message)
  | none => .ok ()

/-- The first member of a list that is equal to an earlier one. -/
def firstRepeated? (seen : List String) : List String → Option String
  | [] => none
  | name :: names => if name ∈ seen then some name else firstRepeated? (name :: seen) names

/-! ## Declarations -/

/-- The first violation among the fields of a struct, after fields with the given
names. -/
def fieldViolation? (owner : String) (seen : List String) : List FieldDecl → Option Violation
  | [] => none
  | field :: fields =>
    if field.name = "" ∨ field.typeName = "" then some (.unnamedField owner)
    else if field.name ∈ seen then some (.repeatedField field.name owner)
    else fieldViolation? owner (field.name :: seen) fields

/-- The first violation of a declared struct with a given qualified name. -/
def StructDecl.violation? (s : StructDecl) (qualifiedName : String) : Option Violation :=
  if s.name = "" then some .unnamedStruct
  else if s.parent = some qualifiedName then some (.selfExtension qualifiedName)
  else fieldViolation? qualifiedName [] s.declaredFields

/-- The first violation of a namespace. -/
def NamespaceDecl.violation? (space : NamespaceDecl) : Option Violation :=
  if space.name = "" then some .unnamedNamespace
  else space.structs.findSome? fun s => s.violation? (space.qualify s.name)

/-- The first violation of a schema: structs outside namespaces come before
namespaces. -/
def Schema.violation? (schema : Schema) : Option Violation :=
  (schema.structs.findSome? fun s => s.violation? s.name).or
    (schema.namespaces.findSome? NamespaceDecl.violation?)

/-- Checks the declarations of a schema. -/
def Schema.check (schema : Schema) : Except SchemaError Unit :=
  refuseIf schema.violation?

/-! ## Emitted structs -/

/-- The violation of a struct to be emitted: the first property that two of its
fields share. -/
def StructType.violation? (s : StructType) : Option Violation :=
  (firstRepeated? [] (s.fields.map StructField.propertyName)).map fun property =>
    .repeatedProperty property s.qualifiedName

/-- Checks the structs of a registry that are to be emitted. -/
def Registry.checkWorklist (r : Registry) : Except SchemaError Unit :=
  refuseIf (r.worklist.findSome? StructType.violation?)

/-- A list without a repeated member, and without one seen before, is exactly one
in which no member is found. -/
theorem firstRepeated?_eq_none_iff {seen names : List String} :
    firstRepeated? seen names = none ↔ names.Nodup ∧ ∀ name ∈ names, name ∉ seen := by
  induction names generalizing seen with
  | nil => simp [firstRepeated?]
  | cons name names ih =>
    by_cases h : name ∈ seen
    · simp [firstRepeated?, h]
    · simp only [firstRepeated?, h, if_false, ih, List.nodup_cons, List.mem_cons, not_or,
        forall_eq_or_imp, not_false_eq_true, true_and]
      constructor
      · rintro ⟨hnd, hne⟩
        exact ⟨⟨fun hm => (hne name hm).1 rfl, hnd⟩, fun n hn => (hne n hn).2⟩
      · rintro ⟨⟨hnm, hnd⟩, hns⟩
        exact ⟨hnd, fun n hn => ⟨fun h' => hnm (h' ▸ hn), hns n hn⟩⟩

end TypeProjection
