/-
  Proofs/Projection/OneLine.lean --- lines that end where they are written.

  If the names, the qualifiers and the identity that are written for a struct end no lines,
  then every stroke of its block writes one line.
-/
import TypeProjection.Proofs.Casing.Images
import TypeProjection.Proofs.Projection.Blocks

set_option autoImplicit false

namespace TypeProjection.Projection

open Layout

variable {r : Registry} {config : Config} {s : StructType}

/-- What is written for a field ends no lines. -/
structure OneLineField (f : TypedField) : Prop where
  /-- The name of the property. -/
  property : OneLine f.field.propertyName
  /-- The name of the member. -/
  member : OneLine f.field.memberName
  /-- The projected name of the type. -/
  typeName : OneLine f.type.projectedName
  /-- What stands in front of it. -/
  qualifier : OneLine f.type.qualifier

/-- What is written for a struct ends no lines. -/
structure OneLineStruct (r : Registry) (s : StructType) : Prop where
  /-- The projected name. -/
  projectedName : OneLine s.projectedName
  /-- The name of the interface. -/
  interfaceName : OneLine s.interfaceName
  /-- The names of all fields and of their types. -/
  fields : ∀ f ∈ s.fields, ∀ type ∈ r.get? f.typeName, OneLineField ⟨f, type⟩
  /-- The identity. -/
  guid : ∀ guid ∈ s.guid, OneLine guid

instance : DecidablePred OneLineField := fun f =>
  decidable_of_iff (OneLine f.field.propertyName ∧ OneLine f.field.memberName ∧
      OneLine f.type.projectedName ∧ OneLine f.type.qualifier)
    ⟨fun ⟨hproperty, hmember, htype, hqualifier⟩ => ⟨hproperty, hmember, htype, hqualifier⟩,
      fun ⟨hproperty, hmember, htype, hqualifier⟩ => ⟨hproperty, hmember, htype, hqualifier⟩⟩

instance : DecidablePred (OneLineStruct r) := fun s =>
  decidable_of_iff (OneLine s.projectedName ∧ OneLine s.interfaceName ∧
      (∀ f ∈ s.fields, ∀ type ∈ r.get? f.typeName, OneLineField ⟨f, type⟩) ∧
        ∀ guid ∈ s.guid, OneLine guid)
    ⟨fun ⟨hname, hinterface, hfields, hguid⟩ => ⟨hname, hinterface, hfields, hguid⟩,
      fun ⟨hname, hinterface, hfields, hguid⟩ => ⟨hname, hinterface, hfields, hguid⟩⟩

namespace OneLineField

variable {f : TypedField}

theorem parameterName (h : OneLineField f) : OneLine f.type.parameterName := by
  unfold ProjectedType.parameterName
  split
  · exact oneLine_append.2 ⟨h.typeName, by decide⟩
  · exact h.typeName

theorem memberTypeName (h : OneLineField f) : OneLine f.type.memberTypeName := by
  unfold ProjectedType.memberTypeName
  split
  · exact oneLine_append.2 ⟨oneLine_append.2 ⟨by decide, h.typeName⟩, by decide⟩
  · exact h.typeName

end OneLineField

theorem oneLineField_of_typedFields {fields : List TypedField}
    (h : typedFields r s = .ok fields) (hs : OneLineStruct r s) :
    ∀ f ∈ fields, OneLineField f := by
  intro f hf
  obtain ⟨hmap, hget⟩ := typedFields_eq_ok_iff.1 h
  exact hs.fields f.field (hmap ▸ List.mem_map_of_mem hf) f.type (hget f hf)

/-! ## Strokes -/

section Strokes

variable {fields : List TypedField} (hs : OneLineStruct r s)
  (hfields : ∀ f ∈ fields, OneLineField f)

include hs hfields

theorem oneLines_interfaceStrokes {guid : String} (hguid : OneLine guid) :
    OneLines (interfaceStrokes s guid fields) := by
  have hidentity : OneLine (String.ofList (Casing.uppercase guid.toList)) := by
    unfold OneLine
    rw [String.toList_ofList]
    exact Casing.not_mem_uppercase Casing.avoids_upper_newline hguid
  have hproperties : OneLines (List.intercalate [.blank] (fields.map propertyLines)) := by
    refine oneLines_intercalate (by simp) (List.forall_mem_map.2 fun f hf => ?_)
    have hf := hfields f hf
    simp +decide [propertyLines, hf.property, hf.qualifier, hf.parameterName]
  simp +decide [interfaceStrokes, interfaceAttributes, versionMark, hs.projectedName,
    hs.interfaceName, hidentity, hproperties]

theorem oneLines_wrapperStrokes (hconfig : OneLine config.subnamespace) :
    OneLines (wrapperStrokes config s fields) := by
  have haccessors : OneLines (fields.flatMap accessorStrokes) := by
    refine List.forall_mem_flatMap.2 fun f hf => ?_
    have hf := hfields f hf
    have hhandOut : (handOutLine f).OneLine := by
      unfold handOutLine ProjectedType.accessorSuffix
      split <;> simp +decide [hf.member]
    exact show OneLines (accessorStrokes f) by
      simp +decide [accessorStrokes, getterStrokes, setterStrokes, hf.property, hf.member,
        hf.parameterName, hhandOut]
  have hmembers : OneLines (fields.map memberLine) := by
    refine List.forall_mem_map.2 fun f hf => ?_
    have hf := hfields f hf
    simp +decide [memberLine, hf.member, hf.memberTypeName]
  simp +decide [wrapperStrokes, Config.runtimeClassName, hconfig, hs.projectedName,
    hs.interfaceName, haccessors, hmembers]

theorem oneLines_valueStrokes : OneLines (valueStrokes s fields) := by
  have hlines : OneLines (fields.map valueFieldLine) := by
    refine List.forall_mem_map.2 fun f hf => ?_
    have hf := hfields f hf
    simp +decide [valueFieldLine, hf.property, hf.qualifier, hf.typeName]
  simp +decide [valueStrokes, versionMark, hs.projectedName, hlines]

end Strokes

/-! ## Blocks -/

section Blocks

variable {kind : ProjectionKind} {block : Block} (h : blockOfKind r config s kind = .ok block)
  (hs : OneLineStruct r s)

include h hs

/-- The interface definitions of a block end no lines, whatever the kind of projection. -/
theorem oneLines_idl_of_blockOfKind : OneLines block.idl := by
  obtain ⟨fields, hfields, ⟨-, guid, hguid, rfl⟩ | ⟨-, rfl⟩⟩ := blockOfKind_eq_ok_iff.1 h
  · exact oneLines_interfaceStrokes hs (oneLineField_of_typedFields hfields hs)
      (hs.guid guid hguid)
  · exact oneLines_valueStrokes hs (oneLineField_of_typedFields hfields hs)

/-- The native text of a block ends no lines if the namespace of the runtime does not. -/
theorem oneLines_native_of_blockOfKind (hconfig : OneLine config.subnamespace) :
    OneLines block.native := by
  obtain ⟨fields, hfields, ⟨-, guid, -, rfl⟩ | ⟨-, rfl⟩⟩ := blockOfKind_eq_ok_iff.1 h
  · exact oneLines_wrapperStrokes hs (oneLineField_of_typedFields hfields hs) hconfig
  · exact oneLines_nil

end Blocks

end TypeProjection.Projection
