/-
  Projection/Config.lean --- what can be chosen about the generated texts.
-/
import TypeProjection.NameStyle

set_option autoImplicit false

namespace TypeProjection.Projection

/-- The namespace segment of runtime classes unless something else is asked
for. -/
def defaultSubnamespace : String :=
  "Graphics.Canvas"

/-- What can be chosen about the generated texts. -/
structure Config where
  /-- How projected names are built. -/
  style : NameStyle
  /-- The namespace of runtime classes below the outermost one. -/
  subnamespace : String
  deriving DecidableEq, Repr

instance : Inhabited Config := ⟨⟨default, defaultSubnamespace⟩⟩

/-- The full name of the runtime class of a projected type. -/
def Config.runtimeClassName (config : Config) (projectedName : String) : String :=
  "Microsoft." ++ config.subnamespace ++ "." ++ projectedName

end TypeProjection.Projection
