/-
  Projection/Generation.lean --- generating both texts.

  Every struct on the worklist adds one block, in the order of the worklist, and
  the first struct that cannot be emitted ends the generation.
-/
import TypeProjection.Check
import TypeProjection.Override.Reader
import TypeProjection.Projection.RuntimeClass
import TypeProjection.Projection.ValueType
import TypeProjection.Registry.Load

set_option autoImplicit false

namespace TypeProjection.Projection

/-! ## Structs -/

/-- The block of a struct under a kind of projection. -/
def blockOfKind (r : Registry) (config : Config) (s : StructType) :
    ProjectionKind → Except GenerateError Block
  | .runtimeClass => classBlock r config s
  | .valueType => valueBlock r s

/-- Both texts with a struct emitted as a class. -/
def emitClass (r : Registry) (config : Config) (s : StructType) (output : Output) :
    Except GenerateError Output :=
  (classBlock r config s).map output.write

/-- Both texts with a struct emitted as plain data. -/
def emitValue (r : Registry) (s : StructType) (output : Output) :
    Except GenerateError Output :=
  (valueBlock r s).map output.write

/-! ## Worklists -/

/-- How many structs were emitted as what. -/
structure Totals where
  /-- The number of classes. -/
  classes : Nat
  /-- The number of plain structs. -/
  values : Nat
  deriving DecidableEq, Repr, Inhabited

/-- The totals with one more struct. -/
def Totals.count (totals : Totals) : ProjectionKind → Totals
  | .runtimeClass => { totals with classes := totals.classes + 1 }
  | .valueType => { totals with values := totals.values + 1 }

/-- Emits structs one by one. -/
def emitAll (r : Registry) (config : Config) :
    List StructType → Totals → Output → Journaled (Except GenerateError Output)
  | [], totals, output => ⟨[.generated totals.classes totals.values], .ok output⟩
  | s :: structs, totals, output =>
    match selectKind r s with
    | .error e => ⟨[], .error (.schema e)⟩
    | .ok kind =>
      match blockOfKind r config s kind with
      | .error e => ⟨[.emitting s.qualifiedName kind], .error e⟩
      | .ok block =>
        (emitAll r config structs (totals.count kind) (output.write block)).after
          [.emitting s.qualifiedName kind]

/-- Generates both texts from a registry, with a journal. -/
def generateJournaled (r : Registry) (config : Config) :
    Journaled (Except GenerateError Output) :=
  emitAll r config r.worklist ⟨0, 0⟩ .empty

/-- Generates both texts from a registry. -/
def generate (r : Registry) (config : Config) : Except GenerateError Output :=
  (generateJournaled r config).result

/-! ## Schemas -/

/-- Checks what was loaded and generates both texts. -/
def generateChecked (schema : Schema) (overrides : Overrides) (config : Config) :
    Except GenerateError Output := do
  let registry ← (load schema overrides config.style).mapError .schema
  registry.checkWorklist.mapError .schema
  generate registry config

/-- The overrides of an override document; none without a document. -/
def readOverridesIfAny : Option String → Except ReadError Overrides
  | some text => readOverrides text
  | none => .ok .empty

/-- Generates both texts from a schema document and, if there is one, an override
document.  The schema is read and checked before the overrides are read. -/
def generateFromTexts (schemaText : String) (overridesText : Option String)
    (config : Config) : Except GenerateError Output := do
  let schema ← (readSchema schemaText).mapError .read
  schema.check.mapError .schema
  let overrides ← (readOverridesIfAny overridesText).mapError .read
  generateChecked schema overrides config

end TypeProjection.Projection
