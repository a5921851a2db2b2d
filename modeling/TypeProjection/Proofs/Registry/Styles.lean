/-
  Proofs/Registry/Styles.lean --- what a loaded registry owes to the style.

  The lead of a style goes into projected names and nowhere else.  So a schema is loaded
  under all styles or under none, for the same reason, and registries that are loaded under
  two styles resemble each other: what they hold differs in projected names alone, and if
  the leads are on one line, these names take equally many lines (`resembles_of_load`).
-/
import TypeProjection.Proofs.Layout.Breaks
import TypeProjection.Proofs.Projection.Worklist

set_option autoImplicit false

namespace TypeProjection

open Layout (OneLine breaks breaks_append breaks_of_oneLine)

/-! ## Resemblance -/

/-- Two types of which the same is shown, apart from names that take equally many lines. -/
structure ProjectedType.Resembles (type type' : ProjectedType) : Prop where
  /-- Both are handed over alike. -/
  isReference : type'.isReference = type.isReference
  /-- The qualifier is the same. -/
  qualifier : type'.qualifier = type.qualifier
  /-- Their names have equally many line ends. -/
  projectedName : breaks type'.projectedName = breaks type.projectedName

/-- Two structs of which the same is shown, apart from names that take equally many lines. -/
structure StructType.Resembles (s s' : StructType) : Prop where
  /-- They are registered under the same name. -/
  qualifiedName : s'.qualifiedName = s.qualifiedName
  /-- They have the same fields. -/
  fields : s'.fields = s.fields
  /-- They have the same identity, or none. -/
  guid : s'.guid = s.guid
  /-- Their names have equally many line ends. -/
  projectedName : breaks s'.projectedName = breaks s.projectedName
  /-- So have the names of their interfaces. -/
  interfaceName : breaks s'.interfaceName = breaks s.interfaceName

/-- Two registries with types that resemble each other. -/
structure Registry.Resembles (r r' : Registry) : Prop where
  /-- A name stands for types that resemble each other, or for none in both. -/
  types : ∀ key, Option.Rel ProjectedType.Resembles (r.get? key) (r'.get? key)
  /-- The structs to be emitted resemble each other, in one order. -/
  worklist : List.Forall₂ StructType.Resembles r.worklist r'.worklist

/-! ## Names under two styles -/

section Styles

variable {style style' : NameStyle} (hlead : OneLine style.lead) (hlead' : OneLine style'.lead)

include hlead hlead'

theorem breaks_withLead (name : String) :
    breaks (style'.withLead name) = breaks (style.withLead name) := by
  rw [NameStyle.withLead, NameStyle.withLead, breaks_append, breaks_append,
    breaks_of_oneLine hlead, breaks_of_oneLine hlead']

theorem breaks_projectedStructName (decl : StructDecl) (override : Option StructOverride) :
    breaks (projectedStructName style' decl override) =
      breaks (projectedStructName style decl override) := by
  unfold projectedStructName
  split
  · exact breaks_withLead hlead hlead' _
  · rfl
  · exact breaks_withLead hlead hlead' _

variable (schema : Schema) (overrides : Overrides)

theorem resembles_finishedStruct (space : Option NamespaceDecl) (decl : StructDecl) :
    (schema.finishedStruct overrides style space decl).Resembles
      (schema.finishedStruct overrides style' space decl) where
  qualifiedName := rfl
  fields := rfl
  guid := rfl
  projectedName := breaks_projectedStructName hlead hlead' decl _
  interfaceName := by
    simp only [Schema.finishedStruct, describeStruct, breaks_append,
      breaks_projectedStructName hlead hlead']

theorem resembles_finished (d : Declaration) :
    (schema.finished overrides style d).Resembles (schema.finished overrides style' d) := by
  cases d with
  | primitive | interface => exact ⟨rfl, rfl, rfl⟩
  | struct space decl =>
    exact ⟨rfl, rfl, (resembles_finishedStruct hlead hlead' schema overrides _ _).projectedName⟩
  | enumeration space name =>
    refine ⟨rfl, rfl, ?_⟩
    simp only [Schema.finished, Declaration.describe, ProjectedType.projectedName]
    cases (overrides.type? _).bind TypeOverride.rename with
    | some rename => rfl
    | none => exact breaks_withLead hlead hlead' _

variable {schema overrides} {r r' : Registry}

/-- Registries that are loaded under two styles resemble each other. -/
theorem resembles_of_load (hr : load schema overrides style = .ok r)
    (hr' : load schema overrides style' = .ok r') : r.Resembles r' where
  types key := by
    cases htype : r.get? key with
    | some type =>
      obtain ⟨d, hd, hkey, rfl⟩ := (get?_of_load hr).1 htype
      rw [(get?_of_load hr').2 ⟨d, hd, hkey, rfl⟩]
      exact .some (resembles_finished hlead hlead' schema overrides d)
    | none =>
      cases htype' : r'.get? key with
      | none => exact .none
      | some type' =>
        obtain ⟨d, hd, hkey, -⟩ := (get?_of_load hr').1 htype'
        rw [(get?_of_load hr).2 ⟨d, hd, hkey, rfl⟩] at htype
        cases htype
  worklist := by
    rw [worklist_eq_selected hr, worklist_eq_selected hr']
    exact forall₂_map_map fun x _ => resembles_finishedStruct hlead hlead' schema overrides _ x.2

/-- A schema is loaded under both styles alike. -/
theorem agree_load (schema : Schema) (overrides : Overrides) :
    Agree Registry.Resembles (load schema overrides style) (load schema overrides style') := by
  have herror : ∀ e, load schema overrides style = .error e ↔
      load schema overrides style' = .error e :=
    fun _ => load_eq_error_congr overrides overrides style style'
  cases hr : load schema overrides style with
  | error e =>
    rw [(herror e).1 hr]
    exact .error e
  | ok r =>
    cases hr' : load schema overrides style' with
    | error e =>
      rw [(herror e).2 hr'] at hr
      cases hr
    | ok r' => exact .ok (resembles_of_load hlead hlead' hr hr')

end Styles

/-- The check of a worklist looks at nothing in which registries that resemble each other
differ. -/
theorem Registry.Resembles.checkWorklist_eq {r r' : Registry} (h : r.Resembles r') :
    r'.checkWorklist = r.checkWorklist := by
  have hviolation : ∀ s s' : StructType, s.Resembles s' → s'.violation? = s.violation? := by
    intro s s' hs
    rw [StructType.violation?, StructType.violation?, hs.fields, hs.qualifiedName]
  have hall := h.worklist
  rw [checkWorklist, checkWorklist]
  generalize r.worklist = structs, r'.worklist = structs' at hall
  refine congrArg refuseIf ?_
  induction hall with
  | nil => rfl
  | cons hs _ ih => rw [List.findSome?_cons, List.findSome?_cons, hviolation _ _ hs, ih]

end TypeProjection
