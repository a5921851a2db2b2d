/-
  Projection/ValueType.lean --- structs that are plain data.

  Such a struct becomes a struct of the interface definitions and adds nothing
  to the native wrappers.
-/
import TypeProjection.Projection.Block
import TypeProjection.Projection.Error

set_option autoImplicit false

namespace TypeProjection.Projection

open Layout (Stroke braced)

/-- The line of a field. -/
def valueFieldLine (f : TypedField) : Stroke :=
  .line (f.type.qualifier ++ f.type.projectedName ++ " " ++ f.field.propertyName ++ ";")

/-- The strokes of a struct with the given fields. -/
def valueStrokes (s : StructType) (fields : List TypedField) : List Stroke :=
  [.line ("[" ++ versionMark ++ "]"), .line ("typedef struct " ++ s.projectedName)] ++
    braced (fields.map valueFieldLine) ("\x7d " ++ s.projectedName ++ ";") ++ [.blank]

/-- The block of a struct that is plain data. -/
def valueBlock (r : Registry) (s : StructType) : Except GenerateError Block :=
  match typedFields r s with
  | .error e => .error (.schema e)
  | .ok fields => .ok ⟨valueStrokes s fields, []⟩

end TypeProjection.Projection
