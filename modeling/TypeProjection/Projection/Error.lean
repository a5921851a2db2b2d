/-
  Projection/Error.lean --- why nothing is generated.
-/
import TypeProjection.SchemaError
import TypeProjection.Storage.Fault

set_option autoImplicit false

namespace TypeProjection.Projection

/-- Why nothing is generated. -/
inductive GenerateError where
  /-- a document could not be read -/
  | read (error : ReadError)
  /-- the schema is refused -/
  | schema (error : SchemaError)
  /-- a file could not be read -/
  | input (fault : Storage.Fault)
  /-- a file or a directory could not be written -/
  | output (path : String) (fault : Storage.Fault)
  /-- a struct needs an identity and has none -/
  | missingGuid (name : String)
  deriving DecidableEq, Repr, Inhabited

namespace GenerateError

/-- What is told about a failure. -/
def message : GenerateError → String
  | .read error => "schema parse error: " ++ error.message
  | .schema error => "schema error: " ++ error.message
  | .input fault => "IO error: " ++ fault.message
  | .output path fault => s!"failed to write '{path}': " ++ fault.message
  | .missingGuid name =>
    s!"struct '{name}' requires class projection but its override declares no Guid"

/-- The texts of the errors below a failure, from the outermost one in. -/
def sources : GenerateError → List String
  | .read error => error.message :: error.sources
  | .schema error => error.message :: error.sources
  | .input fault | .output _ fault => [fault.message]
  | .missingGuid _ => []

end GenerateError

end TypeProjection.Projection
