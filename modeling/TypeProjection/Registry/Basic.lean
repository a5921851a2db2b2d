/-
  Registry/Basic.lean --- all types of a schema under their qualified names.

  A registry is built in two phases.  A builder takes types one by one; ending
  the phase gives every struct with a parent the fields of its parent in front
  of its own.  Only the finished registry is used afterwards.
-/
import TypeProjection.Descriptor
import TypeProjection.SchemaError
import TypeProjection.Table

set_option autoImplicit false

namespace TypeProjection

/-- The finished registry. -/
structure Registry where
  /-- The types by qualified name, in the order of registration. -/
  types : Table ProjectedType
  deriving DecidableEq, Repr, Inhabited

namespace Registry

/-- The type under a qualified name. -/
def get? (r : Registry) (name : String) : Option ProjectedType :=
  r.types.get? name

/-- The type under a qualified name, which has to stand for one. -/
def resolve (r : Registry) (name : String) : Except SchemaError ProjectedType :=
  match r.get? name with
  | some type => .ok type
  | none => .error (.typeNotFound name)

/-- The type of a field of a struct. -/
def resolveField (r : Registry) (owner : StructType) (field : StructField) :
    Except SchemaError ProjectedType :=
  match r.get? field.typeName with
  | some type => .ok type
  | none => .error (.unknownFieldType field.typeName field.name owner.qualifiedName)

/-- The number of types. -/
def size (r : Registry) : Nat :=
  r.types.size

/-- Whether there are no types. -/
def isEmpty (r : Registry) : Bool :=
  r.types.isEmpty

/-- The structs, in the order of registration. -/
def structs (r : Registry) : List StructType :=
  r.types.values.filterMap ProjectedType.struct?

/-- The structs to be emitted, in the order of registration. -/
def worklist (r : Registry) : List StructType :=
  r.structs.filter (·.included)

/-! ## Inheritance -/

/-- The fields that a struct has by its declaration: those declared by its
parent, then its own.  The parent has to be a struct without a parent. -/
def flatten (r : Registry) (s : StructType) : Except SchemaError (List StructField) :=
  match s.parent with
  | none => .ok s.declaredFields
  | some parent =>
    match r.resolve parent with
    | .error e => .error e
    | .ok type =>
      match type.struct? with
      | none => .error (.invalidParent s.qualifiedName parent)
      | some ancestor =>
        match ancestor.parent with
        | some grandparent =>
          .error (.multiLevelInheritance s.qualifiedName parent grandparent)
        | none => .ok (ancestor.declaredFields ++ s.declaredFields)

/-- A type with its inheritance resolved: a struct with a parent has its
flattened fields, any other type stays as it is. -/
def inherit (r : Registry) (type : ProjectedType) : Except SchemaError ProjectedType :=
  match type with
  | .struct s =>
    if s.parent.isSome then (r.flatten s).map fun fields => .struct { s with fields }
    else .ok type
  | _ => .ok type

/-! ## Building -/

/-- The types registered so far. -/
structure Builder where
  /-- The types by qualified name, in the order of registration. -/
  types : Table ProjectedType
  deriving DecidableEq, Repr, Inhabited

namespace Builder

/-- Nothing is registered. -/
def empty : Builder :=
  ⟨.empty⟩

/-- Registers a type under a qualified name, which must not be taken. -/
def register (b : Builder) (name : String) (type : ProjectedType) :
    Except SchemaError Builder :=
  match b.types.insert? name type with
  | some types => .ok ⟨types⟩
  | none => .error (.duplicateType name)

/-- Whether a type is registered under a qualified name. -/
def contains (b : Builder) (name : String) : Bool :=
  b.types.contains name

/-- The number of types registered so far. -/
def size (b : Builder) : Nat :=
  b.types.size

/-- Whether nothing is registered. -/
def isEmpty (b : Builder) : Bool :=
  b.types.isEmpty

/-- Ends registration.  Inheritance is looked up among the types as they were
registered, so a parent may be registered after its children. -/
def build (b : Builder) : Except SchemaError Registry :=
  (b.types.traverse (inherit ⟨b.types⟩)).map Registry.mk

end Builder

end Registry

end TypeProjection
