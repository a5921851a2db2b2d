/-
  Proofs/Registry/Emitted.lean --- the structs of a loaded registry that are emitted.

  Which structs are on the worklist, and under which names, follows from the declarations
  and the overrides alone: a struct of a namespace with a field list whose override asks
  for projection is emitted under the lead of the style and a name that is either the
  rename of the override or derived from the declared name.
-/
import TypeProjection.Proofs.Registry.Loading

set_option autoImplicit false

namespace TypeProjection

variable {schema : Schema} {overrides : Overrides} {style : NameStyle} {r : Registry}

/-! ## Names without the lead -/

/-- The name without the lead that a declared struct is emitted under, if it is to be
emitted. -/
def Declaration.emittedName? (overrides : Overrides) : Declaration → Option String
  | .struct (some space) decl =>
    ((overrides.struct? (space.qualify decl.name)).filter fun o =>
      o.shouldProject && !decl.isUnion).map fun o => o.rename.getD (typeNameOf decl.name)
  | _ => none

/-- The names without the lead of all structs that are to be emitted, in order. -/
def Schema.emittedNames (schema : Schema) (overrides : Overrides) : List String :=
  schema.declarations.filterMap (Declaration.emittedName? overrides)

/-- What is emitted is a struct of a namespace with a field list whose override asks for
it. -/
theorem Declaration.emittedName?_eq_some_iff {space : Option NamespaceDecl} {decl : StructDecl}
    {name : String} :
    (Declaration.struct space decl).emittedName? overrides = some name ↔
      (∃ home, space = some home) ∧ decl.fields ≠ none ∧
        ∃ o, overrides.struct? (Declaration.struct space decl).key = some o ∧
          o.shouldProject = true ∧ o.rename.getD (typeNameOf decl.name) = name := by
  cases space with
  | none => simp [emittedName?]
  | some home =>
    simp only [emittedName?, Option.map_eq_some_iff, Option.filter_eq_some_iff, Bool.and_eq_true,
      StructDecl.isUnion, Bool.not_eq_true', Option.isNone_eq_false_iff, Option.isSome_iff_ne_none]
    constructor
    · rintro ⟨o, ⟨ho, hproject, hfields⟩, hname⟩
      exact ⟨⟨home, rfl⟩, hfields, o, ho, hproject, hname⟩
    · rintro ⟨-, hfields, o, ho, hproject, hname⟩
      exact ⟨o, ⟨ho, hproject, hfields⟩, hname⟩

/-- A struct whose override asks for projection has the lead in front of its rename, or
of its derived name. -/
theorem projectedName_of_structNamed {name projectedName : String} {o : StructOverride}
    (h : StructNamed style name (some o) projectedName) (hproject : o.shouldProject = true) :
    projectedName = style.lead ++ o.rename.getD (typeNameOf name) := by
  cases h with
  | derived hrename =>
    rw [Option.bind_some] at hrename
    rw [hrename, Option.getD_none]
  | projected hrename _ => rw [hrename, Option.getD_some]
  | renamed _ hother =>
    rw [hproject] at hother
    cases hother

/-! ## Structs -/

/-- Every struct that is loaded follows a declaration, and what it inherits is declared
by a struct too. -/
theorem exists_structFollows_of_load (h : load schema overrides style = .ok r) {s : StructType}
    (hs : s ∈ r.structs) :
    ∃ space decl inherited, .struct space decl ∈ schema.declarations ∧
      StructFollows style (overrides.struct? (Declaration.struct space decl).key) space decl
        inherited s ∧
      ∀ f ∈ inherited, ∃ space' root, .struct space' root ∈ schema.declarations ∧
        f ∈ root.declaredFields := by
  obtain ⟨key, hmem⟩ := Registry.mem_structs_iff.1 hs
  obtain ⟨d, hd, -, hdescribes⟩ :=
    exists_of_mem_of_forall₂ (forall₂_describes_of_load h).flip hmem
  cases hdescribes with
  | root _ hfollows => exact ⟨_, _, [], hd, hfollows, by simp⟩
  | child _ hroot hfollows =>
    obtain ⟨space', hmem', -⟩ := hroot
    exact ⟨_, _, _, hd, hfollows, fun f hf => ⟨space', _, hmem', hf⟩⟩

/-! ## The worklist -/

/-- The name that a type is emitted under, if it is a struct to be emitted. -/
def ProjectedType.emittedName? (type : ProjectedType) : Option String :=
  (type.struct?.filter (·.included)).map StructType.projectedName

theorem Registry.map_projectedName_worklist (r : Registry) :
    r.worklist.map StructType.projectedName =
      r.types.entries.filterMap fun entry => entry.2.emittedName? := by
  unfold Registry.worklist Registry.structs Table.values
  rw [List.filterMap_map, List.filter_filterMap, List.map_filterMap]
  rfl

theorem emittedName?_of_structFollows {space : Option NamespaceDecl} {decl : StructDecl}
    {inherited : List FieldDecl} {s : StructType}
    (h : StructFollows style (overrides.struct? (Declaration.struct space decl).key) space decl
      inherited s) :
    (ProjectedType.struct s).emittedName? =
      ((Declaration.struct space decl).emittedName? overrides).map (style.lead ++ ·) := by
  have hincluded := h.included
  have hnamed := h.projectedName
  cases hname : (Declaration.struct space decl).emittedName? overrides with
  | none =>
    have hnot : s.included = false := by
      rw [Bool.eq_false_iff]
      intro hs
      obtain ⟨hhome, hfields, o, ho, hproject⟩ := hincluded.1 hs
      rw [Declaration.emittedName?_eq_some_iff.2 ⟨hhome, hfields, o, ho, hproject, rfl⟩] at hname
      cases hname
    simp [ProjectedType.emittedName?, ProjectedType.struct?, hnot]
  | some name =>
    obtain ⟨hhome, hfields, o, ho, hproject, rfl⟩ := Declaration.emittedName?_eq_some_iff.1 hname
    have hs : s.included = true := hincluded.2 ⟨hhome, hfields, o, ho, hproject⟩
    rw [ho] at hnamed
    simp [ProjectedType.emittedName?, ProjectedType.struct?, hs,
      projectedName_of_structNamed hnamed hproject]

theorem emittedName?_of_describes {d : Declaration} {type : ProjectedType}
    (h : schema.Describes overrides style d type) :
    type.emittedName? = (d.emittedName? overrides).map (style.lead ++ ·) := by
  cases h with
  | primitive | interface | enumeration => rfl
  | root _ h => exact emittedName?_of_structFollows h
  | child _ _ h => exact emittedName?_of_structFollows h

/-- The structs on the worklist are those that the declarations and the overrides tell,
each with the lead in its name. -/
theorem map_projectedName_of_load (h : load schema overrides style = .ok r) :
    r.worklist.map StructType.projectedName =
      (schema.emittedNames overrides).map (style.lead ++ ·) := by
  rw [r.map_projectedName_worklist, Schema.emittedNames]
  have hall := forall₂_describes_of_load h
  generalize schema.declarations = declarations, r.types.entries = entries at hall ⊢
  induction hall with
  | nil => rfl
  | @cons d entry _ _ hentry _ ih =>
    simp only [List.filterMap_cons, emittedName?_of_describes hentry.2]
    cases d.emittedName? overrides with
    | none => exact ih
    | some name => simp only [Option.map_some, List.map_cons, ih]

end TypeProjection
