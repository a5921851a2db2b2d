/-
  Registry/Load.lean --- from a schema and its overrides to a registry.

  The declarations of a schema are registered in one fixed order: primitives,
  structs outside namespaces, then the namespaces one by one, each with its
  structs, its interfaces and its enums.
-/
import TypeProjection.Journal
import TypeProjection.Override.Record
import TypeProjection.Registry.Basic

set_option autoImplicit false

namespace TypeProjection

/-! ## Structs -/

/-- The projected name of a struct.  A rename gets the lead of the style only if
the struct is to be projected; a derived name always has it. -/
def projectedStructName (style : NameStyle) (s : StructDecl)
    (override : Option StructOverride) : String :=
  match override.bind fun o => o.rename.map fun rename => (rename, o.shouldProject) with
  | some (rename, true) => style.withLead rename
  | some (rename, false) => rename
  | none => style.projectedTypeName s.name

/-- Whether a struct is to be emitted: it is in a namespace, has a field list,
and its override asks for it. -/
def isIncluded (space : Option NamespaceDecl) (s : StructDecl)
    (override : Option StructOverride) : Bool :=
  space.isSome && !s.isUnion && (override.map StructOverride.shouldProject).getD false

/-- The descriptor of a declared struct.  Its fields are the declared ones until
the registry is built. -/
def describeStruct (space : Option NamespaceDecl) (s : StructDecl)
    (override : Option StructOverride) (style : NameStyle) : StructType :=
  let projectedName := projectedStructName style s override
  let fields := s.declaredFields.map StructField.ofDecl
  { qualifiedName := (space.map fun space => space.qualify s.name).getD s.name
    nativeName := (space.map fun space => space.nativeName s.name).getD s.name
    projectedName
    interfaceName := "I" ++ projectedName
    declaredFields := fields
    fields
    parent := s.parent
    guid := override.bind StructOverride.guid
    qualifier := override.bind StructOverride.qualifier
    usesUnions := s.isUnion
    included := isIncluded space s override }

/-! ## Declarations -/

/-- A declaration of a schema, with the place where it stands. -/
inductive Declaration where
  /-- a primitive -/
  | primitive (name : String)
  /-- a struct, in a namespace or in none -/
  | struct (space : Option NamespaceDecl) (content : StructDecl)
  /-- an interface of a namespace -/
  | interface (space : NamespaceDecl) (name : String)
  /-- an enum of a namespace -/
  | enumeration (space : NamespaceDecl) (name : String)
  deriving DecidableEq, Repr, Inhabited

namespace Declaration

/-- The qualified name of the declared type. -/
def key : Declaration → String
  | .primitive name => name
  | .struct none content => content.name
  | .struct (some space) content => space.qualify content.name
  | .interface space name | .enumeration space name => space.qualify name

/-- The descriptor of the declared type under the override of its own qualified
name.  The names of primitives and interfaces are kept unless overridden, those
of enums are derived like those of structs. -/
def describe (overrides : Overrides) (style : NameStyle) (d : Declaration) : ProjectedType :=
  let named (nativeName derived : String) : NamedType :=
    let override := overrides.type? d.key
    { nativeName
      projectedName := (override.bind TypeOverride.rename).getD derived
      qualifier := override.bind TypeOverride.qualifier }
  match d with
  | .primitive name => .primitive (named name name)
  | .struct space content =>
    .struct (describeStruct space content (overrides.struct? d.key) style)
  | .interface space name => .interface (named (space.nativeName name) name)
  | .enumeration space name =>
    .enumeration (named (space.nativeName name) (style.projectedTypeName name))

/-- What is reported when the descriptor is made: a struct without a field
list. -/
def remarks : Declaration → List JournalEntry
  | d@(.struct _ content) => if content.isUnion then [.unionMet d.key] else []
  | _ => []

end Declaration

/-- The declarations of a namespace, in the order of registration. -/
def NamespaceDecl.declarations (space : NamespaceDecl) : List Declaration :=
  space.structs.map (.struct (some space)) ++ space.interfaces.map (.interface space) ++
    space.enums.map (.enumeration space)

/-- The declarations of a schema, in the order of registration. -/
def Schema.declarations (schema : Schema) : List Declaration :=
  schema.primitives.map .primitive ++ schema.structs.map (.struct none) ++
    schema.namespaces.flatMap NamespaceDecl.declarations

/-! ## Loading -/

/-- Registers declarations one by one, up to the first whose name is taken. -/
def registerAll (overrides : Overrides) (style : NameStyle) :
    List Declaration → Registry.Builder → Journaled (Except SchemaError Registry.Builder)
  | [], b => ⟨[], .ok b⟩
  | d :: ds, b =>
    let type := d.describe overrides style
    match b.register d.key type with
    | .error e => ⟨d.remarks, .error e⟩
    | .ok b' =>
      (registerAll overrides style ds b').after
        (d.remarks ++ [.registered d.key type.projectedName])

/-- Loads the registry of a schema, with a journal. -/
def loadJournaled (schema : Schema) (overrides : Overrides) (style : NameStyle) :
    Journaled (Except SchemaError Registry) :=
  let registered := registerAll overrides style schema.declarations .empty
  match registered.result with
  | .error e => ⟨registered.journal, .error e⟩
  | .ok b =>
    match b.build with
    | .error e => ⟨registered.journal, .error e⟩
    | .ok registry =>
      ⟨registered.journal ++ [.loaded registry.size registry.worklist.length], .ok registry⟩

/-- Loads the registry of a schema. -/
def load (schema : Schema) (overrides : Overrides) (style : NameStyle) :
    Except SchemaError Registry :=
  (loadJournaled schema overrides style).result

/-- A namespace has as many declarations as it counts. -/
theorem NamespaceDecl.length_declarations (space : NamespaceDecl) :
    space.declarations.length = space.declarationCount := by
  simp only [declarations, declarationCount, List.length_append, List.length_map]

/-- A schema has as many declarations as it counts. -/
theorem Schema.length_declarations (schema : Schema) :
    schema.declarations.length = schema.declarationCount := by
  have hspaces : ∀ spaces : List NamespaceDecl,
      (spaces.flatMap NamespaceDecl.declarations).length =
        spaces.foldr (fun space total => space.declarationCount + total) 0 := by
    intro spaces
    induction spaces with
    | nil => rfl
    | cons space spaces ih =>
      rw [List.flatMap_cons, List.length_append, space.length_declarations, ih, List.foldr_cons]
  simp only [declarations, List.length_append, List.length_map, hspaces, declarationCount]

end TypeProjection
