/-
  Descriptor.lean --- types as the emitters see them.

  A declaration together with its override gives a descriptor: the names of the
  type on both sides and, for a struct, all that is needed to emit it.
-/
import TypeProjection.NameStyle
import TypeProjection.Schema.Declaration

set_option autoImplicit false

namespace TypeProjection

/-! ## Fields -/

/-- A field with the names derived from its declared name. -/
structure StructField where
  /-- The declared name. -/
  name : String
  /-- The qualified name of its type. -/
  typeName : String
  /-- The name of the member that stores it. -/
  memberName : String
  /-- The name of the property that shows it. -/
  propertyName : String
  deriving DecidableEq, Repr, Inhabited

/-- The field of a declaration. -/
def StructField.ofDecl (field : FieldDecl) : StructField where
  name := field.name
  typeName := field.typeName
  memberName := memberNameOf field.name
  propertyName := propertyNameOf field.name

/-! ## Structs -/

/-- A struct with its names, its fields and how it is projected. -/
structure StructType where
  /-- The name it is registered under. -/
  qualifiedName : String
  /-- The name it has on the native side. -/
  nativeName : String
  /-- The name it is projected under. -/
  projectedName : String
  /-- The name of its interface. -/
  interfaceName : String
  /-- The fields of its own declaration. -/
  declaredFields : List StructField
  /-- All its fields, those of the parent first. -/
  fields : List StructField
  /-- The qualified name of the struct it extends. -/
  parent : Option String
  /-- The identity of its interface. -/
  guid : Option String
  /-- What stands in front of the projected name in interface definitions. -/
  qualifier : Option String
  /-- Whether its content is a union. -/
  usesUnions : Bool
  /-- Whether it is to be emitted. -/
  included : Bool
  deriving DecidableEq, Repr, Inhabited

/-! ## Types -/

/-- The names of a type that is no struct. -/
structure NamedType where
  /-- The name it has on the native side. -/
  nativeName : String
  /-- The name it is projected under. -/
  projectedName : String
  /-- What stands in front of the projected name in interface definitions. -/
  qualifier : Option String
  deriving DecidableEq, Repr, Inhabited

/-- A type that fields can have. -/
inductive ProjectedType where
  /-- a primitive -/
  | primitive (names : NamedType)
  /-- an enum -/
  | enumeration (names : NamedType)
  /-- a struct -/
  | struct (content : StructType)
  /-- an interface -/
  | interface (names : NamedType)
  deriving DecidableEq, Repr, Inhabited

/-- How values of a type are handed over. -/
inductive TypeKind where
  /-- by copy -/
  | value
  /-- by counted reference -/
  | reference
  deriving DecidableEq, Repr, Inhabited

namespace ProjectedType

/-- Interfaces are handed over by reference, all other types by value. -/
def kind : ProjectedType → TypeKind
  | .interface _ => .reference
  | _ => .value

/-- Whether values are handed over by reference. -/
def isReference (t : ProjectedType) : Bool :=
  t.kind = .reference

/-- The name the type is projected under. -/
def projectedName : ProjectedType → String
  | .primitive names | .enumeration names | .interface names => names.projectedName
  | .struct content => content.projectedName

/-- The name the type has on the native side. -/
def nativeName : ProjectedType → String
  | .primitive names | .enumeration names | .interface names => names.nativeName
  | .struct content => content.nativeName

/-- What stands in front of the projected name in interface definitions; empty if
there is nothing. -/
def qualifier : ProjectedType → String
  | .primitive names | .enumeration names | .interface names => names.qualifier.getD ""
  | .struct content => content.qualifier.getD ""

/-- The projected name as a parameter is written: a reference with an
asterisk. -/
def parameterName (t : ProjectedType) : String :=
  if t.isReference then t.projectedName ++ "*" else t.projectedName

/-- What follows a member of the type where its raw value is read. -/
def accessorSuffix (t : ProjectedType) : String :=
  if t.isReference then ".Get()" else ""

/-- The type of the member that stores a value: a counted pointer for a
reference. -/
def memberTypeName (t : ProjectedType) : String :=
  if t.isReference then "ComPtr<" ++ t.projectedName ++ ">" else t.projectedName

/-- The struct that the type is, if it is one. -/
def struct? : ProjectedType → Option StructType
  | .struct content => some content
  | _ => none

end ProjectedType

end TypeProjection
