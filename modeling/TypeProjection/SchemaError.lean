/-
  SchemaError.lean --- why a schema that could be read is refused.
-/
import TypeProjection.ReadError

set_option autoImplicit false

namespace TypeProjection

/-- Why a schema is refused. -/
inductive SchemaError where
  /-- a document could not be read -/
  | read (error : ReadError)
  /-- two types have the same qualified name -/
  | duplicateType (name : String)
  /-- a qualified name stands for no type -/
  | typeNotFound (name : String)
  /-- the type of a field stands for no type -/
  | unknownFieldType (typeName field owner : String)
  /-- a struct extends something that is no struct -/
  | invalidParent (name parent : String)
  /-- a struct extends a struct that extends another one -/
  | multiLevelInheritance (name parent grandparent : String)
  /-- a declaration breaks a rule -/
  | validation (message : String)
  deriving DecidableEq, Repr, Inhabited

namespace SchemaError

/-- What is told about a refused schema. -/
def message : SchemaError → String
  | .read error => "parse error: " ++ error.message
  | .duplicateType name => s!"type '{name}' is declared more than once"
  | .typeNotFound name => s!"type '{name}' not found"
  | .unknownFieldType typeName field owner =>
    s!"unknown type '{typeName}' in field '{field}' of struct '{owner}'"
  | .invalidParent name parent => s!"struct '{name}' extends '{parent}', which is not a struct"
  | .multiLevelInheritance name parent grandparent =>
    s!"struct '{name}' extends '{parent}', which itself extends '{grandparent}': " ++
      "only one level of inheritance is supported"
  | .validation message => "validation error: " ++ message

/-- The texts of the errors below a refusal, from the outermost one in. -/
def sources : SchemaError → List String
  | .read error => error.message :: error.sources
  | _ => []

end SchemaError

end TypeProjection
