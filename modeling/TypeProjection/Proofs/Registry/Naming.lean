/-
  Proofs/Registry/Naming.lean --- the naming rules of descriptors.

  What a descriptor says is fixed by the declaration and by the override under
  the qualified name of the declared type.  The rules stand here as relations,
  one clause for every kind of declaration, and the descriptors that are made
  follow them.
-/
import TypeProjection.Registry.Load

set_option autoImplicit false

namespace TypeProjection

/-! ## Qualified names -/

/-- The qualified names of a namespace: each name behind that of the
namespace. -/
def NamespaceDecl.keys (space : NamespaceDecl) : List String :=
  (space.structs.map StructDecl.name ++ space.interfaces ++ space.enums).map fun name =>
    space.name ++ "::" ++ name

/-- The qualified names of all declared types: primitives, structs outside
namespaces, and then the structs, interfaces and enums of every namespace. -/
def Schema.keys (schema : Schema) : List String :=
  schema.primitives ++ schema.structs.map StructDecl.name ++
    schema.namespaces.flatMap NamespaceDecl.keys

theorem NamespaceDecl.map_key_declarations (space : NamespaceDecl) :
    space.declarations.map Declaration.key = space.keys := by
  simp only [declarations, keys, List.map_append, List.map_map]
  rfl

theorem Schema.map_key_declarations (schema : Schema) :
    schema.declarations.map Declaration.key = schema.keys := by
  have hspaces : ∀ spaces : List NamespaceDecl,
      (spaces.flatMap NamespaceDecl.declarations).map Declaration.key =
        spaces.flatMap NamespaceDecl.keys := by
    intro spaces
    simp only [List.map_flatMap, NamespaceDecl.map_key_declarations]
  have hprimitives : schema.primitives.map (Declaration.key ∘ .primitive) = schema.primitives :=
    List.map_id _
  simp only [declarations, keys, List.map_append, List.map_map, hspaces, hprimitives]
  rfl

/-! ## Types that are no structs -/

/-- The names of a type that is no struct: a rename replaces the derived name,
and the qualifier is that of the override. -/
structure NamesFollow (override : Option TypeOverride) (nativeName derived : String)
    (names : NamedType) : Prop where
  /-- The native name is the given one. -/
  nativeName : names.nativeName = nativeName
  /-- A rename is taken as it is; without one the derived name is kept. -/
  projectedName : names.projectedName = (override.bind TypeOverride.rename).getD derived
  /-- The qualifier is that of the override. -/
  qualifier : names.qualifier = override.bind TypeOverride.qualifier

/-! ## Structs -/

/-- The projected name of a struct with a declared name. -/
inductive StructNamed (style : NameStyle) (name : String) :
    Option StructOverride → String → Prop where
  /-- without a rename it is derived and gets the lead -/
  | derived {override : Option StructOverride}
    (h : override.bind StructOverride.rename = none) :
    StructNamed style name override (style.lead ++ typeNameOf name)
  /-- a rename gets the lead if the struct is to be projected -/
  | projected {override : StructOverride} {rename : String}
    (h : override.rename = some rename) (hproject : override.shouldProject = true) :
    StructNamed style name (some override) (style.lead ++ rename)
  /-- any other rename is taken as it is -/
  | renamed {override : StructOverride} {rename : String}
    (h : override.rename = some rename) (hproject : override.shouldProject = false) :
    StructNamed style name (some override) rename

/-- The descriptor of a struct that inherits given fields, in a namespace or in
none, with the override under its qualified name. -/
structure StructFollows (style : NameStyle) (override : Option StructOverride)
    (space : Option NamespaceDecl) (decl : StructDecl) (inherited : List FieldDecl)
    (s : StructType) : Prop where
  /-- In a namespace the name is qualified. -/
  qualifiedName : s.qualifiedName =
    match space with
    | none => decl.name
    | some space => space.name ++ "::" ++ decl.name
  /-- In a namespace the native name begins with its native name. -/
  nativeName : s.nativeName =
    match space with
    | none => decl.name
    | some space => space.apiName ++ "_" ++ decl.name
  /-- The projected name follows from the override and the declared name. -/
  projectedName : StructNamed style decl.name override s.projectedName
  /-- The name of the interface is marked as one. -/
  interfaceName : s.interfaceName = "I" ++ s.projectedName
  /-- The declared fields are those of the declaration. -/
  declaredFields : s.declaredFields = decl.declaredFields.map StructField.ofDecl
  /-- All fields are the inherited ones and then those of the declaration. -/
  fields : s.fields = (inherited ++ decl.declaredFields).map StructField.ofDecl
  /-- The parent is the declared one. -/
  parent : s.parent = decl.parent
  /-- The identity is that of the override. -/
  guid : s.guid = override.bind StructOverride.guid
  /-- The qualifier is that of the override. -/
  qualifier : s.qualifier = override.bind StructOverride.qualifier
  /-- A struct without a field list is a union. -/
  usesUnions : s.usesUnions = true ↔ decl.fields = none
  /-- Included are structs of namespaces with a field list whose override asks for
  it. -/
  included : s.included = true ↔
    (∃ home, space = some home) ∧ decl.fields ≠ none ∧
      ∃ o, override = some o ∧ o.shouldProject = true

theorem structNamed_projectedStructName (style : NameStyle) (decl : StructDecl)
    (override : Option StructOverride) :
    StructNamed style decl.name override (projectedStructName style decl override) := by
  unfold projectedStructName
  cases override with
  | none => exact .derived rfl
  | some o =>
    cases hrename : o.rename with
    | none => simpa [hrename] using .derived (by simpa using hrename)
    | some rename =>
      cases hproject : o.shouldProject with
      | true => simpa [hrename, hproject] using .projected hrename hproject
      | false => simpa [hrename, hproject] using .renamed hrename hproject

/-- The descriptor that is made for a struct follows the rules, with the fields
that are put in front when registration ends. -/
theorem structFollows_describeStruct (style : NameStyle) (override : Option StructOverride)
    (space : Option NamespaceDecl) (decl : StructDecl) (inherited : List FieldDecl) :
    StructFollows style override space decl inherited
      { describeStruct space decl override style with
        fields := (inherited ++ decl.declaredFields).map StructField.ofDecl } where
  qualifiedName := by cases space <;> rfl
  nativeName := by cases space <;> rfl
  projectedName := structNamed_projectedStructName style decl override
  interfaceName := rfl
  declaredFields := rfl
  fields := rfl
  parent := rfl
  guid := rfl
  qualifier := rfl
  usesUnions := by simp [describeStruct, StructDecl.isUnion]
  included := by
    cases space <;> cases override <;>
      simp [describeStruct, isIncluded, StructDecl.isUnion, Option.isSome_iff_ne_none]

end TypeProjection
