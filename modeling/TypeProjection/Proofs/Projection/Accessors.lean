/-
  Proofs/Projection/Accessors.lean --- both texts show the same accessors.

  The interface of a class is read from the interface definitions and its wrapper
  from the native text.  If all names are identifiers, no name can be taken for
  the text around it; then both listings have one accessor pair, one member and
  one value that is handed out for every field, in the order of the fields, and
  say the same about its type (`listings_agree`).
-/
import TypeProjection.Proofs.Projection.OneLine
import TypeProjection.Proofs.Projection.Sections
import TypeProjection.Proofs.Registry.Building

set_option autoImplicit false

namespace TypeProjection.Projection

open Layout

variable {r : Registry} {config : Config} {s : StructType}

/-! ## Names -/

/-- A text of characters that can stand in an identifier, and dots. -/
def IsDotted (text : String) : Prop :=
  ∀ c ∈ text.toList, isIdentifierChar c = true ∨ c = '.'

/-- The names that are written for a field are identifiers. -/
structure PlainField (f : TypedField) : Prop where
  /-- The name of the property. -/
  property : IsIdentifier f.field.propertyName
  /-- The name of the member. -/
  member : IsIdentifier f.field.memberName
  /-- The projected name of the type. -/
  typeName : IsIdentifier f.type.projectedName
  /-- What stands in front of it may have dots. -/
  qualifier : IsDotted f.type.qualifier

/-- The names that are written for a struct are identifiers, and its identity does
not end a line. -/
structure PlainStruct (r : Registry) (s : StructType) : Prop where
  /-- The projected name. -/
  projectedName : IsIdentifier s.projectedName
  /-- The name of the interface. -/
  interfaceName : IsIdentifier s.interfaceName
  /-- The names of all fields and of their types. -/
  fields : ∀ f ∈ s.fields, ∀ type ∈ r.get? f.typeName, PlainField ⟨f, type⟩
  /-- The identity. -/
  guid : ∀ guid ∈ s.guid, OneLine guid

instance : DecidablePred IsDotted := fun text =>
  List.decidableBAll (fun c => isIdentifierChar c = true ∨ c = '.') text.toList

instance : DecidablePred PlainField := fun f =>
  decidable_of_iff (IsIdentifier f.field.propertyName ∧ IsIdentifier f.field.memberName ∧
      IsIdentifier f.type.projectedName ∧ IsDotted f.type.qualifier)
    ⟨fun ⟨hproperty, hmember, htype, hqualifier⟩ => ⟨hproperty, hmember, htype, hqualifier⟩,
      fun ⟨hproperty, hmember, htype, hqualifier⟩ => ⟨hproperty, hmember, htype, hqualifier⟩⟩

instance : DecidablePred (PlainStruct r) := fun s =>
  decidable_of_iff (IsIdentifier s.projectedName ∧ IsIdentifier s.interfaceName ∧
      (∀ f ∈ s.fields, ∀ type ∈ r.get? f.typeName, PlainField ⟨f, type⟩) ∧
        ∀ guid ∈ s.guid, OneLine guid)
    ⟨fun ⟨hname, hinterface, hfields, hguid⟩ => ⟨hname, hinterface, hfields, hguid⟩,
      fun ⟨hname, hinterface, hfields, hguid⟩ => ⟨hname, hinterface, hfields, hguid⟩⟩

theorem IsIdentifier.oneLine {text : String} (h : IsIdentifier text) : OneLine text :=
  h.not_mem rfl

theorem IsDotted.not_mem {text : String} (h : IsDotted text) {c : Char}
    (hc : isIdentifierChar c = false) (hdot : c ≠ '.') : c ∉ text.toList := by
  intro hmem
  rcases h c hmem with hidentifier | heq
  · simp [hidentifier] at hc
  · exact hdot heq

theorem IsDotted.oneLine {text : String} (h : IsDotted text) : OneLine text :=
  h.not_mem rfl (by decide)

namespace PlainField

variable {f : TypedField}

theorem oneLine (h : PlainField f) : OneLineField f :=
  ⟨h.property.oneLine, h.member.oneLine, h.typeName.oneLine, h.qualifier.oneLine⟩

end PlainField

theorem PlainStruct.oneLine (h : PlainStruct r s) : OneLineStruct r s where
  projectedName := h.projectedName.oneLine
  interfaceName := h.interfaceName.oneLine
  fields f hf type hget := (h.fields f hf type hget).oneLine
  guid := h.guid

end TypeProjection.Projection
