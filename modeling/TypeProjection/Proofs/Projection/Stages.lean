/-
  Proofs/Projection/Stages.lean --- from two documents to two texts.

  Generation goes through stages, and succeeds exactly if all of them do: the schema
  is read and checked, the overrides are read, the registry is loaded, the structs on
  the worklist are checked, and the texts are generated.  However two documents are
  written, only their element trees matter to it.
-/
import TypeProjection.Projection.Generation
import TypeProjection.Proofs.Override.Elements

set_option autoImplicit false

namespace TypeProjection.Projection

open Markup (Element Tag Written written_document)

variable {schemaText : String} {overridesText : Option String} {config : Config} {output : Output}

/-- What every stage of a generation from documents gives. -/
structure Stages (schemaText : String) (overridesText : Option String) (config : Config)
    (output : Output) (schema : Schema) (overrides : Overrides) (r : Registry) : Prop where
  /-- The schema is read. -/
  schemaRead : readSchema schemaText = .ok schema
  /-- Its declarations pass their check. -/
  checked : schema.check = .ok ()
  /-- The overrides, if there are any, are read. -/
  overridesRead : readOverridesIfAny overridesText = .ok overrides
  /-- The registry is loaded. -/
  loaded : load schema overrides config.style = .ok r
  /-- The structs to be emitted pass their check. -/
  worklistChecked : r.checkWorklist = .ok ()
  /-- The texts are generated. -/
  generated : generate r config = .ok output

theorem mapError_eq_ok_iff {α ε ε' : Type} {f : ε → ε'} {x : Except ε α} {a : α} :
    x.mapError f = .ok a ↔ x = .ok a := by
  cases x <;> simp [Except.mapError]

/-- Generation from documents succeeds exactly if all stages do. -/
theorem generateFromTexts_eq_ok_iff :
    generateFromTexts schemaText overridesText config = .ok output ↔
      ∃ schema overrides r, Stages schemaText overridesText config output schema overrides r := by
  unfold generateFromTexts generateChecked
  simp only [bind_eq_ok_iff, mapError_eq_ok_iff]
  constructor
  · rintro ⟨schema, hschema, ⟨⟩, hchecked, overrides, hoverrides, r, hloaded, ⟨⟩, hworklist,
      hgenerated⟩
    exact ⟨schema, overrides, r, hschema, hchecked, hoverrides, hloaded, hworklist, hgenerated⟩
  · rintro ⟨schema, overrides, r, h⟩
    exact ⟨schema, h.schemaRead, (), h.checked, overrides, h.overridesRead, r, h.loaded, (),
      h.worklistChecked, h.generated⟩

/-! ## Element trees -/

/-- Generates both texts from the element trees of two documents. -/
def generateFromElements (schemaRoot overridesRoot : Element) (config : Config) :
    Except GenerateError Output := do
  let schema ← (Schema.ofElement schemaRoot).mapError .read
  schema.check.mapError .schema
  let overrides ← ((overrideSites overridesRoot).foldlM Overrides.addSite .empty).mapError .read
  generateChecked schema overrides config

/-- A text in which a schema with a root element is written. -/
structure WrittenSchema (root : Element) (text : String) : Prop where
  /-- The text is a written form of the root element. -/
  written : Written [root] text.toList
  /-- The root element is one of a schema. -/
  name : root.tag.name = "Settings"
  /-- No element directly in it is one again. -/
  nested : ∀ child ∈ root.children, child.tag.name ≠ "Settings"

/-- Generation from two documents goes by their element trees. -/
theorem generateFromTexts_of_written {schemaRoot overridesRoot : Element}
    {schemaText overridesText : String} (hschema : WrittenSchema schemaRoot schemaText)
    (hoverrides : WrittenOverrides overridesRoot overridesText) (config : Config) :
    generateFromTexts schemaText (some overridesText) config =
      generateFromElements schemaRoot overridesRoot config := by
  rw [generateFromTexts, readSchema_of_written hschema.written hschema.name hschema.nested,
    readOverridesIfAny, readOverrides_of_written hoverrides]
  rfl

/-- The registry that is loaded from the element trees of two documents, with what the
documents say. -/
def loadedFrom (schemaRoot overridesRoot : Element) (config : Config) :
    Option (Schema × Overrides × Registry) := do
  let schema ← (Schema.ofElement schemaRoot).toOption
  let overrides ← ((overrideSites overridesRoot).foldlM Overrides.addSite .empty).toOption
  let r ← (load schema overrides config.style).toOption
  return (schema, overrides, r)

/-- The stages before the check of the worklist go by the element trees. -/
theorem Stages.loadedFrom_eq {schemaRoot overridesRoot : Element}
    {schemaText overridesText : String} {schema : Schema} {overrides : Overrides} {r : Registry}
    (h : Stages schemaText (some overridesText) config output schema overrides r)
    (hschema : WrittenSchema schemaRoot schemaText)
    (hoverrides : WrittenOverrides overridesRoot overridesText) :
    loadedFrom schemaRoot overridesRoot config = some (schema, overrides, r) := by
  have hread : readOverrides overridesText = .ok overrides := h.overridesRead
  rw [loadedFrom, ← readSchema_of_written hschema.written hschema.name hschema.nested,
    ← readOverrides_of_written hoverrides, h.schemaRead, hread]
  show (load schema overrides config.style).toOption.bind _ = _
  rw [h.loaded]
  rfl

/-! ## Documents of one namespace -/

/-- The field of a struct. -/
def fieldElement (name typeName : String) : Element :=
  ⟨⟨"Field", [⟨"Name", name⟩, ⟨"Type", typeName⟩]⟩, []⟩

/-- The schema of a primitive and a namespace with the given elements inside it. -/
def spaceSchema (children : List Element) : Element :=
  ⟨⟨"Settings", []⟩, [⟨⟨"Primitive", [⟨"Name", "FLOAT"⟩]⟩, []⟩,
    ⟨⟨"Namespace", [⟨"Name", "Geo"⟩]⟩, children⟩]⟩

/-- The struct of the namespace with a name and fields. -/
def structElement (name : String) (fields : List Element) : Element :=
  ⟨⟨"Struct", [⟨"Name", name⟩]⟩, fields⟩

/-- Overrides that ask for the structs of the namespace with the given names, and give all
of them one identity. -/
def spaceOverrides (names : List String) : Element :=
  ⟨⟨"Overrides", []⟩, [⟨⟨"Namespace", [⟨"Name", "Geo"⟩]⟩, names.map fun name =>
    ⟨⟨"Struct", [⟨"Name", name⟩, ⟨"ShouldProject", "true"⟩, ⟨"Guid", "0a1b"⟩]⟩, []⟩⟩]⟩

theorem written_spaceSchema {children : List Element} (h : (spaceSchema children).Lawful) :
    WrittenSchema (spaceSchema children) (spaceSchema children).document where
  written := written_document h
  name := rfl
  nested := by simp [spaceSchema]

theorem written_spaceOverrides {names : List String} (h : (spaceOverrides names).Lawful) :
    WrittenOverrides (spaceOverrides names) (spaceOverrides names).document where
  written := written_document h
  name := rfl
  nested := by simp [spaceOverrides]
  spaces := by simp [spaceOverrides, Tag.value?]

/-- A shape with a brush. -/
def shapeSchema : Element :=
  spaceSchema [structElement "SHAPE" [fieldElement "x" "FLOAT", fieldElement "brush" "Geo::IBrush"],
    ⟨⟨"Interface", [⟨"Name", "IBrush"⟩]⟩, []⟩]

theorem written_shapeSchema : WrittenSchema shapeSchema shapeSchema.document :=
  written_spaceSchema (by decide)

theorem written_shapeOverrides :
    WrittenOverrides (spaceOverrides ["SHAPE"]) (spaceOverrides ["SHAPE"]).document :=
  written_spaceOverrides (by decide)

/-- The shape can be emitted. -/
theorem exists_generateFromTexts_shape :
    ∃ output, generateFromTexts shapeSchema.document
      (some (spaceOverrides ["SHAPE"]).document) default = .ok output := by
  have hsome : (generateFromElements shapeSchema (spaceOverrides ["SHAPE"])
      default).toOption.isSome = true := by
    decide +kernel
  obtain ⟨output, h⟩ := Option.isSome_iff_exists.1 hsome
  refine ⟨output, ?_⟩
  rw [generateFromTexts_of_written written_shapeSchema written_shapeOverrides]
  exact eq_ok_of_toOption h

end TypeProjection.Projection
