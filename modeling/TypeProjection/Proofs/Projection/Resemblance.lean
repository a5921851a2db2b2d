/-
  Proofs/Projection/Resemblance.lean --- generation from registries that resemble each other.

  Nothing is looked up, checked or chosen by a projected name or by a name at run time.  So
  registries that differ in projected names alone, if these take equally many lines, are
  generated from alike: both generations fail with the same error, or write equally many
  lines (`agree_generate`), and so do two generations from the same documents under two
  configurations (`agree_generateFromTexts`).
-/
import TypeProjection.Proofs.Projection.Emission
import TypeProjection.Proofs.Registry.Styles

set_option autoImplicit false

namespace TypeProjection

open Layout

/-! ## Lines of fields -/

namespace ProjectedType.Resembles

variable {type type' : ProjectedType} (h : type.Resembles type')

include h

theorem parameterName : breaks type'.parameterName = breaks type.parameterName := by
  simp only [ProjectedType.parameterName, h.isReference]
  split <;> simp only [breaks_append, h.projectedName]

theorem memberTypeName : breaks type'.memberTypeName = breaks type.memberTypeName := by
  simp only [ProjectedType.memberTypeName, h.isReference]
  split <;> simp only [breaks_append, h.projectedName]

theorem accessorSuffix : type'.accessorSuffix = type.accessorSuffix := by
  simp only [ProjectedType.accessorSuffix, h.isReference]

end ProjectedType.Resembles

namespace Projection

/-- A field with two types that resemble each other. -/
structure TypedField.Resembles (f f' : TypedField) : Prop where
  /-- The field is the same. -/
  field : f'.field = f.field
  /-- The types resemble each other. -/
  type : f.type.Resembles f'.type

namespace TypedField.Resembles

variable {f f' : TypedField} (h : f.Resembles f')

include h

theorem propertyLines :
    strokeBreaks (propertyLines f') = strokeBreaks (Projection.propertyLines f) := by
  simp only [Projection.propertyLines, strokeBreaks, breaks_append, h.field, h.type.qualifier,
    h.type.parameterName]

theorem handOutLine_eq : handOutLine f' = handOutLine f := by
  simp only [handOutLine, h.field, h.type.isReference, h.type.accessorSuffix]

theorem accessorStrokes :
    strokeBreaks (accessorStrokes f') = strokeBreaks (Projection.accessorStrokes f) := by
  simp only [Projection.accessorStrokes, getterStrokes, setterStrokes, strokeBreaks_append,
    strokeBreaks, strokeBreaks_braced, strokeBreaks_nested, breaks_append, List.cons_append,
    h.handOutLine_eq, h.field, h.type.parameterName]

theorem memberLine : strokeBreaks [memberLine f'] = strokeBreaks [Projection.memberLine f] := by
  simp only [Projection.memberLine, strokeBreaks, breaks_append, h.field, h.type.memberTypeName]

theorem valueFieldLine :
    strokeBreaks [valueFieldLine f'] = strokeBreaks [Projection.valueFieldLine f] := by
  simp only [Projection.valueFieldLine, strokeBreaks, breaks_append, h.field, h.type.qualifier,
    h.type.projectedName]

end TypedField.Resembles

/-! ## Structs -/

section Strokes

variable {s s' : StructType} {fields fields' : List TypedField} (hs : s.Resembles s')
  (hfields : List.Forall₂ TypedField.Resembles fields fields')

include hs hfields

theorem strokeBreaks_interfaceStrokes (guid : String) :
    strokeBreaks (interfaceStrokes s' guid fields') =
      strokeBreaks (interfaceStrokes s guid fields) := by
  have hproperties := strokeBreaks_intercalate_congr hfields
    (fun _ _ hf => hf.propertyLines.symm) [.blank]
  simp only [interfaceStrokes, interfaceAttributes, strokeBreaks_append, strokeBreaks,
    strokeBreaks_braced, breaks_append, hs.interfaceName, hs.projectedName, hproperties]

theorem strokeBreaks_valueStrokes :
    strokeBreaks (valueStrokes s' fields') = strokeBreaks (valueStrokes s fields) := by
  have hlines := strokeBreaks_flatMap_congr hfields (fun _ _ hf => hf.valueFieldLine.symm)
  simp only [valueStrokes, List.map_eq_flatMap, strokeBreaks_append, strokeBreaks,
    strokeBreaks_braced, breaks_append, hs.projectedName, hlines]

theorem strokeBreaks_wrapperStrokes {config config' : Config}
    (hspace : OneLine config.subnamespace) (hspace' : OneLine config'.subnamespace) :
    strokeBreaks (wrapperStrokes config' s' fields') =
      strokeBreaks (wrapperStrokes config s fields) := by
  have haccessors := strokeBreaks_flatMap_congr hfields (fun _ _ hf => hf.accessorStrokes.symm)
  have hmembers := strokeBreaks_flatMap_congr hfields (fun _ _ hf => hf.memberLine.symm)
  simp only [wrapperStrokes, Config.runtimeClassName, List.map_eq_flatMap, strokeBreaks_append,
    strokeBreaks, strokeBreaks_nested, breaks_append, List.cons_append, hs.interfaceName,
    hs.projectedName, haccessors, hmembers, breaks_of_oneLine hspace, breaks_of_oneLine hspace']

end Strokes

/-! ## Registries -/

/-- Two blocks that write equally many lines on both sheets. -/
structure Block.Resembles (block block' : Block) : Prop where
  /-- The interface definitions have equally many lines. -/
  idl : strokeBreaks block'.idl = strokeBreaks block.idl
  /-- The native wrappers have equally many lines. -/
  native : strokeBreaks block'.native = strokeBreaks block.native

/-- Two outputs with equally many lines in both texts. -/
structure Output.Resembles (output output' : Output) : Prop where
  /-- The interface definitions have equally many lines. -/
  idl : (linesOf output'.idl.text).length = (linesOf output.idl.text).length
  /-- The native wrappers have equally many lines. -/
  native : (linesOf output'.native.text).length = (linesOf output.native.text).length

theorem Output.Resembles.write {output output' : Output} {block block' : Block}
    (h : output.Resembles output') (hblock : block.Resembles block') :
    (output.write block).Resembles (output'.write block') := by
  obtain ⟨hidl, hnative⟩ := h
  rw [length_linesOf, length_linesOf, Nat.add_right_cancel_iff] at hidl hnative
  constructor <;>
    simp only [Output.write, length_linesOf, breaks_write, hidl, hnative, hblock.idl, hblock.native]

theorem Output.Resembles.foldl {blocks blocks' : List Block}
    (h : List.Forall₂ Block.Resembles blocks blocks') {output output' : Output}
    (houtput : output.Resembles output') :
    (blocks.foldl Output.write output).Resembles (blocks'.foldl Output.write output') := by
  induction h generalizing output output' with
  | nil => exact houtput
  | cons hblock _ ih => exact ih (houtput.write hblock)

section Registries

variable {r r' : Registry} (h : r.Resembles r') {s s' : StructType} (hs : s.Resembles s')

include h hs

theorem agree_resolveField (f : StructField) :
    Agree ProjectedType.Resembles (r.resolveField s f) (r'.resolveField s' f) := by
  have htypes := h.types f.typeName
  rw [Registry.resolveField, Registry.resolveField, hs.qualifiedName]
  generalize r.get? f.typeName = type?, r'.get? f.typeName = type?' at htypes
  cases htypes with
  | some htype => exact .ok htype
  | none => exact .error _

/-- The scan for an interface looks at nothing in which the registries differ. -/
theorem kindOfFields_eq_of_resembles (fields : List StructField) :
    kindOfFields r' s' fields = kindOfFields r s fields := by
  induction fields with
  | nil => rfl
  | cons f fields ih =>
    have hf := agree_resolveField h hs f
    rw [kindOfFields, kindOfFields, ih]
    generalize r.resolveField s f = type?, r'.resolveField s' f = type?' at hf
    cases hf with
    | error e => rfl
    | ok htype => simp only [htype.isReference]

theorem selectKind_eq_of_resembles : selectKind r' s' = selectKind r s := by
  rw [selectKind, selectKind, hs.fields, kindOfFields_eq_of_resembles h hs]

theorem agree_typedFields :
    Agree (List.Forall₂ TypedField.Resembles) (typedFields r s) (typedFields r' s') := by
  rw [typedFields, typedFields, hs.fields]
  refine .mapM (List.forall₂_same.2 fun f _ => rfl) ?_
  rintro f _ rfl
  exact (agree_resolveField h hs f).map fun _ _ htype => ⟨rfl, htype⟩

variable {config config' : Config} (hspace : OneLine config.subnamespace)
  (hspace' : OneLine config'.subnamespace)

include hspace hspace'

theorem agree_structBlock :
    Agree Block.Resembles (structBlock r config s) (structBlock r' config' s') := by
  have hfields := agree_typedFields h hs
  rw [structBlock, structBlock, selectKind_eq_of_resembles h hs]
  generalize selectKind r s = kind?
  generalize htyped : typedFields r s = fields?, htyped' : typedFields r' s' = fields?' at hfields
  cases kind? with
  | error e => exact .error _
  | ok kind =>
    cases kind with
    | valueType =>
      simp only [blockOfKind, valueBlock, htyped, htyped']
      cases hfields with
      | error e => exact .error _
      | ok hfields => exact .ok ⟨strokeBreaks_valueStrokes hs hfields, rfl⟩
    | runtimeClass =>
      simp only [blockOfKind, classBlock, htyped, htyped', hs.guid, hs.qualifiedName]
      cases s.guid with
      | none => exact .error _
      | some guid =>
        cases hfields with
        | error e => exact .error _
        | ok hfields =>
          exact .ok ⟨strokeBreaks_interfaceStrokes hs hfields guid,
            strokeBreaks_wrapperStrokes hs hfields hspace hspace'⟩

end Registries

/-- Registries that resemble each other are generated from alike. -/
theorem agree_generate {r r' : Registry} {config config' : Config} (h : r.Resembles r')
    (hspace : OneLine config.subnamespace) (hspace' : OneLine config'.subnamespace) :
    Agree Output.Resembles (generate r config) (generate r' config') := by
  rw [generate_eq, generate_eq]
  refine (Agree.mapM h.worklist fun s s' hs => agree_structBlock h hs hspace hspace').map ?_
  exact fun blocks blocks' hblocks => .foldl hblocks ⟨rfl, rfl⟩

/-! ## Documents -/

/-- A configuration whose texts do not end a line. -/
structure Config.IsOneLine (config : Config) : Prop where
  /-- The lead is on one line. -/
  lead : OneLine config.style.lead
  /-- So is the subnamespace. -/
  subnamespace : OneLine config.subnamespace

section Documents

variable {config config' : Config} (h : config.IsOneLine) (h' : config'.IsOneLine)

include h h'

theorem agree_generateChecked (schema : Schema) (overrides : Overrides) :
    Agree Output.Resembles (generateChecked schema overrides config)
      (generateChecked schema overrides config') := by
  unfold generateChecked
  refine ((agree_load h.lead h'.lead schema overrides).mapError _).bind fun r r' hr => ?_
  rw [hr.checkWorklist_eq]
  exact .bind_same fun _ => agree_generate hr h.subnamespace h'.subnamespace

theorem agree_generateFromTexts (schemaText : String) (overridesText : Option String) :
    Agree Output.Resembles (generateFromTexts schemaText overridesText config)
      (generateFromTexts schemaText overridesText config') := by
  unfold generateFromTexts
  refine .bind_same fun schema => .bind_same fun _ => .bind_same fun overrides => ?_
  exact agree_generateChecked h h' schema overrides

end Documents

end Projection

end TypeProjection
