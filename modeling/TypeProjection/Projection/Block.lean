/-
  Projection/Block.lean --- the two texts and what one struct adds to them.
-/
import TypeProjection.Layout.Sheet
import TypeProjection.Projection.Kind
import TypeProjection.Registry.Basic

set_option autoImplicit false

namespace TypeProjection.Projection

open Layout (Sheet Stroke)

/-- What one struct adds to the two texts. -/
structure Block where
  /-- The strokes on the interface definitions. -/
  idl : List Stroke
  /-- The strokes on the native wrappers. -/
  native : List Stroke
  deriving DecidableEq, Repr, Inhabited

/-- The two texts under construction. -/
structure Output where
  /-- The interface definitions. -/
  idl : Sheet
  /-- The native wrappers. -/
  native : Sheet
  deriving DecidableEq, Repr, Inhabited

/-- Nothing is generated. -/
def Output.empty : Output :=
  ⟨.empty, .empty⟩

/-- Both texts with a block added. -/
def Output.write (output : Output) (block : Block) : Output :=
  ⟨output.idl.write block.idl, output.native.write block.native⟩

/-- A field with its type. -/
structure TypedField where
  /-- The field. -/
  field : StructField
  /-- What its type name stands for. -/
  type : ProjectedType
  deriving DecidableEq, Repr, Inhabited

/-- The fields of a struct with their types, or the error of the first one whose
type is unknown. -/
def typedFields (r : Registry) (s : StructType) : Except SchemaError (List TypedField) :=
  s.fields.mapM fun field => (r.resolveField s field).map (⟨field, ·⟩)

/-- What later tools replace by the version. -/
def versionMark : String :=
  "version(VERSION)"

/-- The kind of projection that a list of fields of a struct asks for: a class as
soon as one of them is handed over by reference.  Fields behind that one are not
looked at. -/
def kindOfFields (r : Registry) (s : StructType) :
    List StructField → Except SchemaError ProjectionKind
  | [] => .ok .valueType
  | field :: fields =>
    match r.resolveField s field with
    | .error e => .error e
    | .ok type => if type.isReference then .ok .runtimeClass else kindOfFields r s fields

/-- The kind of projection that a struct asks for. -/
def selectKind (r : Registry) (s : StructType) : Except SchemaError ProjectionKind :=
  kindOfFields r s s.fields

end TypeProjection.Projection
