/-
  Schema/Declaration.lean --- what a type schema declares.

  A schema lists primitives, structs outside namespaces, and namespaces of
  structs, interfaces and enums.  Every type is known under its qualified name.
-/

set_option autoImplicit false

namespace TypeProjection

/-- A field of a struct, as declared. -/
structure FieldDecl where
  /-- The name of the field. -/
  name : String
  /-- The qualified name of its type. -/
  typeName : String
  deriving DecidableEq, Repr, Inhabited

/-- A struct, as declared. -/
structure StructDecl where
  /-- The name, without the namespace. -/
  name : String
  /-- The qualified name of the struct that is extended. -/
  parent : Option String
  /-- The fields in order; without a list the content is a union. -/
  fields : Option (List FieldDecl)
  deriving DecidableEq, Repr, Inhabited

/-- A namespace, as declared. -/
structure NamespaceDecl where
  /-- The name that qualifies the types of the namespace. -/
  name : String
  /-- The name in front of the native names of its types. -/
  apiName : String
  /-- The structs, in order. -/
  structs : List StructDecl
  /-- The names of the interfaces, in order. -/
  interfaces : List String
  /-- The names of the enums, in order. -/
  enums : List String
  deriving DecidableEq, Repr, Inhabited

/-- A type schema. -/
structure Schema where
  /-- The names of the primitives, in order. -/
  primitives : List String
  /-- The structs outside namespaces, in order. -/
  structs : List StructDecl
  /-- The namespaces, in order. -/
  namespaces : List NamespaceDecl
  deriving DecidableEq, Repr, Inhabited

/-- The name of a type in a namespace, as fields and overrides refer to it. -/
def qualify (space name : String) : String :=
  space ++ "::" ++ name

/-! ## Structs -/

namespace StructDecl

/-- A struct of which only the name is known. -/
def ofName (name : String) : StructDecl :=
  ⟨name, none, none⟩

/-- The declared fields; none if there is no field list. -/
def declaredFields (s : StructDecl) : List FieldDecl :=
  s.fields.getD []

/-- Whether the content is a union: there is no field list. -/
def isUnion (s : StructDecl) : Bool :=
  s.fields.isNone

/-- The struct with one more field at the end of its field list. -/
def addField (s : StructDecl) (field : FieldDecl) : StructDecl :=
  { s with fields := some (s.declaredFields ++ [field]) }

end StructDecl

/-! ## Namespaces -/

namespace NamespaceDecl

/-- A namespace without declarations. -/
def ofNames (name apiName : String) : NamespaceDecl :=
  ⟨name, apiName, [], [], []⟩

/-- The qualified name of a type of the namespace. -/
def qualify (space : NamespaceDecl) (name : String) : String :=
  TypeProjection.qualify space.name name

/-- The native name of a type of the namespace. -/
def nativeName (space : NamespaceDecl) (name : String) : String :=
  space.apiName ++ "_" ++ name

/-- The number of types that the namespace declares. -/
def declarationCount (space : NamespaceDecl) : Nat :=
  space.structs.length + space.interfaces.length + space.enums.length

/-- The namespace with one more struct. -/
def addStruct (space : NamespaceDecl) (s : StructDecl) : NamespaceDecl :=
  { space with structs := space.structs ++ [s] }

/-- The namespace with one more interface. -/
def addInterface (space : NamespaceDecl) (name : String) : NamespaceDecl :=
  { space with interfaces := space.interfaces ++ [name] }

/-- The namespace with one more enum. -/
def addEnum (space : NamespaceDecl) (name : String) : NamespaceDecl :=
  { space with enums := space.enums ++ [name] }

end NamespaceDecl

/-! ## Schemas -/

namespace Schema

/-- The schema without declarations. -/
def empty : Schema :=
  ⟨[], [], []⟩

/-- The schema with one more primitive. -/
def addPrimitive (schema : Schema) (name : String) : Schema :=
  { schema with primitives := schema.primitives ++ [name] }

/-- The schema with one more struct outside namespaces. -/
def addStruct (schema : Schema) (s : StructDecl) : Schema :=
  { schema with structs := schema.structs ++ [s] }

/-- The schema with one more namespace. -/
def addNamespace (schema : Schema) (space : NamespaceDecl) : Schema :=
  { schema with namespaces := schema.namespaces ++ [space] }

/-- The first namespace with a given name. -/
def namespace? (schema : Schema) (name : String) : Option NamespaceDecl :=
  schema.namespaces.find? fun space => space.name == name

/-- The number of types that the schema declares. -/
def declarationCount (schema : Schema) : Nat :=
  schema.primitives.length + schema.structs.length +
    schema.namespaces.foldr (fun space total => space.declarationCount + total) 0

end Schema

end TypeProjection
