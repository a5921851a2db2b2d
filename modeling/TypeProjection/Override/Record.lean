/-
  Override/Record.lean --- how single types are projected.

  Overrides are kept by qualified name, those of structs apart from those of
  all other types.
-/
import TypeProjection.ReadError
import TypeProjection.Table

set_option autoImplicit false

namespace TypeProjection

/-- How a struct is projected. -/
structure StructOverride where
  /-- The identity of its interface. -/
  guid : Option String
  /-- The projected name that replaces the derived one. -/
  rename : Option String
  /-- Whether the struct is to be emitted. -/
  shouldProject : Bool
  /-- What stands in front of the projected name in interface definitions. -/
  qualifier : Option String
  deriving DecidableEq, Repr, Inhabited

/-- How a type that is no struct is projected. -/
structure TypeOverride where
  /-- The projected name that replaces the derived one. -/
  rename : Option String
  /-- What stands in front of the projected name in interface definitions. -/
  qualifier : Option String
  deriving DecidableEq, Repr, Inhabited

/-- The overrides by qualified name. -/
structure Overrides where
  /-- The overrides of structs. -/
  structs : Table StructOverride
  /-- The overrides of all other types. -/
  types : Table TypeOverride
  deriving DecidableEq, Repr, Inhabited

namespace Overrides

/-- No overrides. -/
def empty : Overrides :=
  ⟨.empty, .empty⟩

/-- The number of overrides. -/
def size (o : Overrides) : Nat :=
  o.structs.size + o.types.size

/-- Whether there are no overrides. -/
def isEmpty (o : Overrides) : Bool :=
  o.structs.isEmpty && o.types.isEmpty

/-- The override of a struct. -/
def struct? (o : Overrides) (key : String) : Option StructOverride :=
  o.structs.get? key

/-- The override of a type that is no struct. -/
def type? (o : Overrides) (key : String) : Option TypeOverride :=
  o.types.get? key

/-- Adds the override of a struct; it is refused if the struct has one. -/
def addStruct (o : Overrides) (key : String) (record : StructOverride) :
    Except ReadError Overrides :=
  match o.structs.insert? key record with
  | some structs => .ok { o with structs }
  | none => .error (.duplicateDefinition "struct override" key)

/-- Adds the override of a type that is no struct; it is refused if the type has
one. -/
def addType (o : Overrides) (key : String) (record : TypeOverride) :
    Except ReadError Overrides :=
  match o.types.insert? key record with
  | some types => .ok { o with types }
  | none => .error (.duplicateDefinition "type override" key)

end Overrides

end TypeProjection
