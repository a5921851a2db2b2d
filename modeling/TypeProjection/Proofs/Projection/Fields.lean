/-
  Proofs/Projection/Fields.lean --- the types of the fields of a struct.

  A field is known if its type is registered, and an interface field if that
  type is an interface.  The kind of projection and the types of the fields are
  looked up in scans that stop early; here each scan is described by what the
  fields are, not by how they are gone through.
-/
import TypeProjection.Projection.Block
import TypeProjection.Proofs.Traversal

set_option autoImplicit false

namespace TypeProjection

namespace Registry

/-- The type of a field is registered. -/
def IsKnown (r : Registry) (f : StructField) : Prop :=
  ∃ type, r.get? f.typeName = some type

/-- The type of a field is an interface. -/
def IsInterfaceField (r : Registry) (f : StructField) : Prop :=
  ∃ names, r.get? f.typeName = some (.interface names)

/-- A field of a struct, inherited or its own, has an interface as its type. -/
def HoldsInterface (r : Registry) (s : StructType) : Prop :=
  ∃ f ∈ s.fields, r.IsInterfaceField f

variable {r : Registry} {s : StructType} {f : StructField}

theorem IsInterfaceField.isKnown (h : r.IsInterfaceField f) : r.IsKnown f :=
  h.imp' ProjectedType.interface fun _ hn => hn

instance : DecidablePred r.IsKnown := fun f =>
  decidable_of_iff ((r.get? f.typeName).isSome = true) Option.isSome_iff_exists

theorem isReference_eq_true_iff {type : ProjectedType} :
    type.isReference = true ↔ ∃ names, type = .interface names := by
  cases type <;> simp [ProjectedType.isReference, ProjectedType.kind]

theorem isInterfaceField_iff_isReference {type : ProjectedType}
    (h : r.get? f.typeName = some type) : r.IsInterfaceField f ↔ type.isReference = true := by
  rw [isReference_eq_true_iff, IsInterfaceField, h]
  simp

instance : DecidablePred r.IsInterfaceField := fun f =>
  match h : r.get? f.typeName with
  | none => isFalse fun ⟨_, hn⟩ => by rw [h] at hn; simp at hn
  | some _ => decidable_of_iff _ (isInterfaceField_iff_isReference h).symm

instance : DecidablePred r.HoldsInterface := fun s =>
  inferInstanceAs (Decidable (∃ f ∈ s.fields, r.IsInterfaceField f))

/-! ## Single fields -/

theorem resolveField_eq_ok_iff {type : ProjectedType} :
    r.resolveField s f = .ok type ↔ r.get? f.typeName = some type := by
  unfold resolveField
  cases r.get? f.typeName <;> simp

theorem resolveField_eq_error_iff {e : SchemaError} :
    r.resolveField s f = .error e ↔
      ¬ r.IsKnown f ∧ e = .unknownFieldType f.typeName f.name s.qualifiedName := by
  unfold resolveField IsKnown
  cases r.get? f.typeName <;> simp [eq_comm]

end Registry

namespace Projection

variable {r : Registry} {s : StructType}

/-! ## The kind of projection -/

/-- Where the choice of a kind is settled: at a field whose type is unknown or an
interface. -/
def Settles (r : Registry) (f : StructField) : Prop :=
  ¬ r.IsKnown f ∨ r.IsInterfaceField f

/-- One step of the choice: the first field settles it, or it is left to the
others. -/
theorem kindOfFields_cons (f : StructField) (fields : List StructField) :
    (¬ r.IsKnown f ∧ kindOfFields r s (f :: fields) =
        .error (.unknownFieldType f.typeName f.name s.qualifiedName)) ∨
      (r.IsInterfaceField f ∧ kindOfFields r s (f :: fields) = .ok .runtimeClass) ∨
      (¬ Settles r f ∧ kindOfFields r s (f :: fields) = kindOfFields r s fields) := by
  cases h : r.resolveField s f with
  | error e =>
    obtain ⟨hknown, rfl⟩ := Registry.resolveField_eq_error_iff.1 h
    exact Or.inl ⟨hknown, by simp only [kindOfFields, h]⟩
  | ok type =>
    have hget : r.get? f.typeName = some type := Registry.resolveField_eq_ok_iff.1 h
    have hiff := Registry.isInterfaceField_iff_isReference hget
    by_cases href : type.isReference = true
    · exact Or.inr (Or.inl ⟨hiff.2 href, by simp only [kindOfFields, h, href, if_true]⟩)
    · refine Or.inr (Or.inr ⟨?_, by simp only [kindOfFields, h, href]; rfl⟩)
      intro hor
      rcases hor with hknown | hinterface
      · exact hknown ⟨type, hget⟩
      · exact href (hiff.1 hinterface)

theorem kindOfFields_eq_valueType_iff {fields : List StructField} :
    kindOfFields r s fields = .ok .valueType ↔ ∀ f ∈ fields, ¬ Settles r f := by
  induction fields with
  | nil => simp [kindOfFields]
  | cons f fields ih =>
    rw [List.forall_mem_cons, ← ih]
    rcases kindOfFields_cons (r := r) (s := s) f fields with ⟨h, heq⟩ | ⟨h, heq⟩ | ⟨h, heq⟩
    · simp [heq, Settles, h]
    · simp [heq, Settles, h]
    · simp [heq, h]

theorem kindOfFields_eq_runtimeClass_iff {fields : List StructField} :
    kindOfFields r s fields = .ok .runtimeClass ↔
      ∃ f, IsFirst (Settles r) fields f ∧ r.IsInterfaceField f := by
  induction fields with
  | nil => simp [kindOfFields, not_isFirst_nil]
  | cons f fields ih =>
    simp only [isFirst_cons_iff]
    rcases kindOfFields_cons (r := r) (s := s) f fields with ⟨h, heq⟩ | ⟨h, heq⟩ | ⟨h, heq⟩
    · have hf : Settles r f := Or.inl h
      have hno : ¬ r.IsInterfaceField f := fun hi => h hi.isKnown
      simp [heq, hf, hno]
    · have hf : Settles r f := Or.inr h
      simp [heq, hf, h]
    · simp [heq, h, ih]

theorem kindOfFields_eq_error_iff {fields : List StructField} {e : SchemaError} :
    kindOfFields r s fields = .error e ↔
      ∃ f, IsFirst (Settles r) fields f ∧ ¬ r.IsKnown f ∧
        e = .unknownFieldType f.typeName f.name s.qualifiedName := by
  induction fields with
  | nil => simp [kindOfFields, not_isFirst_nil]
  | cons f fields ih =>
    simp only [isFirst_cons_iff]
    rcases kindOfFields_cons (r := r) (s := s) f fields with ⟨h, heq⟩ | ⟨h, heq⟩ | ⟨h, heq⟩
    · have hf : Settles r f := Or.inl h
      simp [heq, hf, h, eq_comm]
    · have hf : Settles r f := Or.inr h
      simp [heq, hf, h.isKnown]
    · simp [heq, h, ih]

/-! ## The types of all fields -/

/-- The typed fields are the fields of the struct, each with the type that is
registered under its type name. -/
theorem typedFields_eq_ok_iff {fields : List TypedField} :
    typedFields r s = .ok fields ↔
      fields.map TypedField.field = s.fields ∧
        ∀ f ∈ fields, r.get? f.field.typeName = some f.type := by
  have hone : ∀ (f : StructField) (t : TypedField),
      (r.resolveField s f).map (⟨f, ·⟩) = .ok t ↔
        t.field = f ∧ r.get? t.field.typeName = some t.type := by
    rintro f ⟨field, type⟩
    cases h : r.resolveField s f with
    | error e =>
      have hknown := (Registry.resolveField_eq_error_iff.1 h).1
      simp only [Except.map, reduceCtorEq, false_iff]
      intro hex
      obtain ⟨rfl, hget⟩ := hex
      exact hknown ⟨type, hget⟩
    | ok t =>
      have hget := Registry.resolveField_eq_ok_iff.1 h
      simp only [Except.map, Except.ok.injEq, TypedField.mk.injEq]
      constructor
      · intro hex
        obtain ⟨rfl, rfl⟩ := hex
        exact ⟨rfl, hget⟩
      · intro hex
        obtain ⟨rfl, hget'⟩ := hex
        exact ⟨rfl, Option.some.inj (hget.symm.trans hget')⟩
  unfold typedFields
  rw [mapM_eq_ok_iff]
  simp only [hone]
  generalize s.fields = names
  constructor
  · intro h
    induction h with
    | nil => simp
    | cons hf _ ih =>
      obtain ⟨ihmap, ihget⟩ := ih
      refine ⟨by rw [List.map_cons, hf.1, ihmap], ?_⟩
      exact List.forall_mem_cons.2 ⟨hf.2, ihget⟩
  · intro hex
    obtain ⟨rfl, hget⟩ := hex
    rw [List.forall₂_map_left_iff]
    exact List.forall₂_same.2 fun f hf => ⟨rfl, hget f hf⟩

/-- The types cannot all be looked up if a field is unknown; the first one is
reported, with the struct that is emitted as its owner. -/
theorem typedFields_eq_error_iff {e : SchemaError} :
    typedFields r s = .error e ↔
      ∃ f, IsFirst (fun f => ¬ r.IsKnown f) s.fields f ∧
        e = .unknownFieldType f.typeName f.name s.qualifiedName := by
  have hone : ∀ f, (∀ t, (r.resolveField s f).map (TypedField.mk f) ≠ .ok t) ↔ ¬ r.IsKnown f := by
    intro f
    unfold Registry.resolveField Registry.IsKnown
    cases r.get? f.typeName <;> simp [Except.map]
  unfold typedFields
  rw [mapM_eq_error_iff]
  simp only [hone]
  refine exists_congr fun f => and_congr_right fun hf => ?_
  cases h : r.resolveField s f with
  | ok type => exact absurd ⟨type, Registry.resolveField_eq_ok_iff.1 h⟩ hf.holds
  | error e' =>
    obtain ⟨-, rfl⟩ := Registry.resolveField_eq_error_iff.1 h
    simp [Except.map, eq_comm]

/-- The types of all fields can be looked up exactly if all fields are known. -/
theorem exists_typedFields_iff :
    (∃ fields, typedFields r s = .ok fields) ↔ ∀ f ∈ s.fields, r.IsKnown f := by
  constructor
  · rintro ⟨fields, h⟩ f hf
    obtain ⟨hmap, hget⟩ := typedFields_eq_ok_iff.1 h
    rw [← hmap] at hf
    obtain ⟨t, ht, rfl⟩ := List.mem_map.1 hf
    exact ⟨t.type, hget t ht⟩
  · intro hknown
    cases h : typedFields r s with
    | ok fields => exact ⟨fields, rfl⟩
    | error e =>
      obtain ⟨f, hf, -⟩ := typedFields_eq_error_iff.1 h
      exact absurd (hknown f hf.mem) hf.holds

end Projection

end TypeProjection
