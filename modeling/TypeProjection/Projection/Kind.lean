/-
  Projection/Kind.lean --- the two ways in which a struct can be emitted.
-/

set_option autoImplicit false

namespace TypeProjection

/-- How a struct is emitted. -/
inductive ProjectionKind where
  /-- as an interface with a runtime class -/
  | runtimeClass
  /-- as a plain struct -/
  | valueType
  deriving DecidableEq, Repr, Inhabited

/-- The name of a kind of projection. -/
def ProjectionKind.label : ProjectionKind → String
  | .runtimeClass => "Class"
  | .valueType => "ValueType"

end TypeProjection
