/-
  ReadError.lean --- why a schema or an override document is refused.
-/
import TypeProjection.Markup.Event

set_option autoImplicit false

namespace TypeProjection

open Markup (Ending Fault)

/-- Why a document is refused while it is read. -/
inductive ReadError where
  /-- the markup itself is refused -/
  | markup (fault : Fault)
  /-- an element lacks an attribute it has to have -/
  | missingAttribute (element key : String)
  /-- an attribute has a value that it cannot have -/
  | invalidAttribute (element key value : String)
  /-- two overrides of one kind have the same key -/
  | duplicateDefinition (kind name : String)
  /-- elements stand where they cannot stand, or the document is cut off -/
  | invalidStructure (message : String)
  deriving DecidableEq, Repr, Inhabited

/-- What is told about a refused document. -/
def ReadError.message : ReadError → String
  | .markup fault => "XML parsing error: " ++ fault.message
  | .missingAttribute element key =>
    s!"missing required attribute '{key}' on element '{element}'"
  | .invalidAttribute element key value =>
    s!"invalid value '{value}' for attribute '{key}' on element '{element}'"
  | .duplicateDefinition kind name => s!"duplicate {kind} definition: '{name}'"
  | .invalidStructure message => s!"invalid schema structure: {message}"

/-- The texts of the errors below a refusal, from the outermost one in. -/
def ReadError.sources : ReadError → List String
  | .markup fault => [fault.message, fault.cause]
  | _ => []

/-! ## Documents that are cut off or out of place -/

/-- The refusal when the events of a document run out: the fault they end at, or
the structure that the end of the text leaves incomplete. -/
def ReadError.ofEnding (ending : Ending) (incomplete : String) : ReadError :=
  match ending with
  | .complete => .invalidStructure incomplete
  | .broken fault => .markup fault

/-- What is told if the document ends inside an element that is passed over. -/
def unexpectedEnd : String :=
  "unexpected end of document"

/-- What is told if the document ends inside an element with a name. -/
def unterminated (element name : String) : String :=
  s!"unterminated {element} '{name}'"

/-- What is told if the document ends before its root element was met. -/
def rootMissing (root : String) : String :=
  s!"No {root} element found"

/-- What is told about an element that stands before the root element. -/
def outsideRoot (what root : String) : String :=
  s!"{what} outside of {root} element"

/-- The value of an attribute that an element has to have. -/
def requireAttribute (tag : Markup.Tag) (element key : String) : Except ReadError String :=
  match tag.value? key with
  | some value => .ok value
  | none => .error (.missingAttribute element key)

end TypeProjection
