/-
  Proofs/Projection/Shown.lean --- what blocks show of the types of fields.

  A block shows of the type of a field whether it is a reference, its projected name and
  its qualifier, and nothing else.  So a struct has the same block in all registries that
  show the types of its fields alike (`structBlock_congr`), and both texts are a function
  of the worklist and of what every struct on it adds (`generate_eq_ok_iff`).
-/
import TypeProjection.Proofs.Projection.Blocks

set_option autoImplicit false

namespace TypeProjection

/-! ## Types -/

/-- The type with nothing but what is shown of it. -/
def ProjectedType.shown : ProjectedType → ProjectedType
  | .interface names => .interface ⟨"", names.projectedName, some (names.qualifier.getD "")⟩
  | type => .primitive ⟨"", type.projectedName, some type.qualifier⟩

namespace ProjectedType

variable (type : ProjectedType)

@[simp] theorem isReference_shown : type.shown.isReference = type.isReference := by
  cases type <;> rfl

@[simp] theorem projectedName_shown : type.shown.projectedName = type.projectedName := by
  cases type <;> rfl

@[simp] theorem qualifier_shown : type.shown.qualifier = type.qualifier := by
  cases type <;> rfl

@[simp] theorem parameterName_shown : type.shown.parameterName = type.parameterName := by
  simp only [parameterName, isReference_shown, projectedName_shown]

@[simp] theorem accessorSuffix_shown : type.shown.accessorSuffix = type.accessorSuffix := by
  simp only [accessorSuffix, isReference_shown]

@[simp] theorem memberTypeName_shown : type.shown.memberTypeName = type.memberTypeName := by
  simp only [memberTypeName, isReference_shown, projectedName_shown]

end ProjectedType

/-- Two registries show a field alike: the types that they have under its type name, if any,
are shown alike. -/
def ShownAlikeIn (r r' : Registry) (f : StructField) : Prop :=
  (r.get? f.typeName).map ProjectedType.shown = (r'.get? f.typeName).map ProjectedType.shown

namespace Projection

open Layout (Stroke unlines linesAt)

variable {r r' : Registry} {config : Config} {s : StructType}

/-! ## Strokes -/

/-- The field with nothing but what is shown of its type. -/
def TypedField.shown (f : TypedField) : TypedField :=
  ⟨f.field, f.type.shown⟩

theorem propertyLines_shown (f : TypedField) : propertyLines f.shown = propertyLines f := by
  simp only [propertyLines, TypedField.shown, ProjectedType.qualifier_shown,
    ProjectedType.parameterName_shown]

theorem accessorStrokes_shown (f : TypedField) : accessorStrokes f.shown = accessorStrokes f := by
  simp only [accessorStrokes, getterStrokes, setterStrokes, handOutLine, TypedField.shown,
    ProjectedType.isReference_shown, ProjectedType.parameterName_shown,
    ProjectedType.accessorSuffix_shown]

theorem memberLine_shown (f : TypedField) : memberLine f.shown = memberLine f := by
  simp only [memberLine, TypedField.shown, ProjectedType.memberTypeName_shown]

theorem valueFieldLine_shown (f : TypedField) : valueFieldLine f.shown = valueFieldLine f := by
  simp only [valueFieldLine, TypedField.shown, ProjectedType.qualifier_shown,
    ProjectedType.projectedName_shown]

theorem interfaceStrokes_shown (s : StructType) (guid : String) (fields : List TypedField) :
    interfaceStrokes s guid (fields.map TypedField.shown) = interfaceStrokes s guid fields := by
  simp only [interfaceStrokes, List.map_map, Function.comp_def, propertyLines_shown]

theorem wrapperStrokes_shown (config : Config) (s : StructType) (fields : List TypedField) :
    wrapperStrokes config s (fields.map TypedField.shown) = wrapperStrokes config s fields := by
  simp only [wrapperStrokes, List.flatMap_map, List.map_map, Function.comp_def,
    accessorStrokes_shown, memberLine_shown]

theorem valueStrokes_shown (s : StructType) (fields : List TypedField) :
    valueStrokes s (fields.map TypedField.shown) = valueStrokes s fields := by
  simp only [valueStrokes, List.map_map, Function.comp_def, valueFieldLine_shown]

/-! ## Scans of fields -/

theorem map_shown_resolveField (r : Registry) (s : StructType) (f : StructField) :
    (r.resolveField s f).map ProjectedType.shown =
      match (r.get? f.typeName).map ProjectedType.shown with
      | some type => .ok type
      | none => .error (.unknownFieldType f.typeName f.name s.qualifiedName) := by
  unfold Registry.resolveField
  cases r.get? f.typeName <;> rfl

/-- The kind of projection is chosen alike if the fields are shown alike. -/
theorem kindOfFields_congr {fields : List StructField}
    (h : ∀ f ∈ fields, ShownAlikeIn r r' f) :
    kindOfFields r s fields = kindOfFields r' s fields := by
  induction fields with
  | nil => rfl
  | cons f fields ih =>
    rw [List.forall_mem_cons] at h
    have hf : (r.resolveField s f).map ProjectedType.shown =
        (r'.resolveField s f).map ProjectedType.shown := by
      rw [map_shown_resolveField, map_shown_resolveField, h.1]
    simp only [kindOfFields, ih h.2]
    obtain ⟨e, hr, hr'⟩ | ⟨type, type', hr, hr', htype⟩ := alike_of_map_eq hf
    · rw [hr, hr']
    · have hreference : type.isReference = type'.isReference := by
        rw [← type.isReference_shown, htype, type'.isReference_shown]
      simp only [hr, hr', hreference]

/-- The types of the fields are looked up alike, up to what is shown of them. -/
theorem typedFields_congr (h : ∀ f ∈ s.fields, ShownAlikeIn r r' f) :
    (typedFields r s).map (List.map TypedField.shown) =
      (typedFields r' s).map (List.map TypedField.shown) := by
  have hone : ∀ (r : Registry) (f : StructField),
      ((r.resolveField s f).map (TypedField.mk f)).map TypedField.shown =
        ((r.resolveField s f).map ProjectedType.shown).map (TypedField.mk f) := by
    intro r f
    cases r.resolveField s f <;> rfl
  unfold typedFields
  rw [map_mapM_eq, map_mapM_eq]
  refine mapM_congr_left fun f hf => ?_
  rw [hone, hone, map_shown_resolveField, map_shown_resolveField, h f hf]

/-! ## Blocks -/

/-- A struct has the same block in two registries that show its fields alike. -/
theorem structBlock_congr (h : ∀ f ∈ s.fields, ShownAlikeIn r r' f) :
    structBlock r config s = structBlock r' config s := by
  have hkind : selectKind r s = selectKind r' s := kindOfFields_congr h
  unfold structBlock
  rw [hkind]
  obtain ⟨e, hr, hr'⟩ | ⟨fields, fields', hr, hr', hfields⟩ := alike_of_map_eq (typedFields_congr h)
  · cases selectKind r' s with
    | error _ => rfl
    | ok kind => cases kind <;> simp only [blockOfKind, classBlock, valueBlock, hr, hr']
  · have hclass : ∀ guid, interfaceStrokes s guid fields = interfaceStrokes s guid fields' := by
      intro guid
      rw [← interfaceStrokes_shown, hfields, interfaceStrokes_shown]
    have hwrapper : wrapperStrokes config s fields = wrapperStrokes config s fields' := by
      rw [← wrapperStrokes_shown, hfields, wrapperStrokes_shown]
    have hvalue : valueStrokes s fields = valueStrokes s fields' := by
      rw [← valueStrokes_shown, hfields, valueStrokes_shown]
    cases selectKind r' s with
    | error _ => rfl
    | ok kind =>
      cases kind <;>
        simp only [blockOfKind, classBlock, valueBlock, hr, hr', hclass, hwrapper, hvalue]

/-- So it can be emitted in both or in none. -/
theorem emittable_congr (h : ∀ f ∈ s.fields, ShownAlikeIn r r' f) :
    Emittable r s ↔ Emittable r' s := by
  rw [← exists_structBlock_iff default, ← exists_structBlock_iff default, structBlock_congr h]

/-! ## Texts -/

/-- What a struct adds to both texts, as it is written on empty sheets; nothing if it cannot
be emitted. -/
def ownOutput (r : Registry) (config : Config) (s : StructType) : Output :=
  match structBlock r config s with
  | .ok block => Output.empty.write block
  | .error _ => .empty

/-- Outputs one behind the other. -/
def Output.concat (outputs : List Output) : Output :=
  ⟨⟨String.join (outputs.map (·.idl.text)), 0⟩, ⟨String.join (outputs.map (·.native.text)), 0⟩⟩

theorem ownOutput_of_structBlock_eq {block : Block} (h : structBlock r config s = .ok block) :
    ownOutput r config s = Output.empty.write block := by
  rw [ownOutput, h]

theorem ownOutput_congr (h : ∀ f ∈ s.fields, ShownAlikeIn r r' f) :
    ownOutput r config s = ownOutput r' config s := by
  rw [ownOutput, ownOutput, structBlock_congr h]

/-- What a struct that can be emitted adds is what the emitter of its own kind writes. -/
theorem ownOutput_of_emittable (h : Emittable r s) :
    OwnOutput r config s (ownOutput r config s) := by
  obtain ⟨block, hblock⟩ := (exists_structBlock_iff config).2 h
  rw [ownOutput_of_structBlock_eq hblock]
  exact ownOutput_of_structBlock hblock

/-- Both texts are what the structs on the worklist add, if all of them can be emitted. -/
theorem generate_eq_ok_iff {output : Output} :
    generate r config = .ok output ↔
      (∀ s ∈ r.worklist, Emittable r s) ∧
        output = .concat (r.worklist.map (ownOutput r config)) := by
  have houtput : ∀ {output : Output}, generate r config = .ok output →
      (∀ s ∈ r.worklist, Emittable r s) ∧
        output = .concat (r.worklist.map (ownOutput r config)) := by
    intro output h
    obtain ⟨blocks, hall, -, rfl⟩ := exists_blocks_of_generate h
    have hown : r.worklist.map (ownOutput r config) = blocks.map Output.empty.write := by
      rw [← List.forall₂_eq_eq_eq, List.forall₂_map_left_iff, List.forall₂_map_right_iff]
      exact hall.imp fun _ _ => ownOutput_of_structBlock_eq
    refine ⟨fun s hs => ?_, ?_⟩
    · obtain ⟨block, -, hblock⟩ := exists_of_mem_of_forall₂ hall hs
      exact (exists_structBlock_iff config).1 ⟨block, hblock⟩
    · simp only [Output.concat, hown, List.map_map, Function.comp_def, write_empty,
        Layout.join_map_unlines]
  refine ⟨houtput, ?_⟩
  rintro ⟨hall, rfl⟩
  obtain ⟨blocks, hblocks⟩ := exists_forall₂_of_forall fun s hs =>
    (exists_structBlock_iff config).2 (hall s hs)
  have h : generate r config = .ok (blocks.foldl Output.write .empty) := by
    rw [generate_eq, mapM_eq_ok_iff.2 hblocks]
    rfl
  rw [h, (houtput h).2]

/-- Registries with the same worklist that show the fields of its structs alike have the same
texts, or fail alike. -/
theorem generate_congr (hworklist : r'.worklist = r.worklist)
    (h : ∀ s ∈ r.worklist, ∀ f ∈ s.fields, ShownAlikeIn r r' f) (config : Config) :
    generate r' config = generate r config := by
  rw [generate_eq, generate_eq, hworklist,
    mapM_congr_left fun s hs => (structBlock_congr (h s hs)).symm]

end Projection

end TypeProjection
