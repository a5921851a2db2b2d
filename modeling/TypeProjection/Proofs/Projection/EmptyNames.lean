/-
  Proofs/Projection/EmptyNames.lean --- where names come out empty.

  The check of a schema is about declared names, but what is written is derived from
  them.  A property is empty if its field is named by underscores alone; the lead of the
  style keeps the name of a struct from being empty, so that a type is written without a
  name only if its name is given without the lead (`named_except_for`).
-/
import TypeProjection.Proofs.NameStyle
import TypeProjection.Proofs.Projection.Blocks
import TypeProjection.Proofs.Projection.Stages
import TypeProjection.Proofs.Registry.Emitted
import TypeProjection.Proofs.Schema.Checking

set_option autoImplicit false

namespace TypeProjection

variable {schema : Schema} {overrides : Overrides} {style : NameStyle} {r : Registry}

/-! ## Types -/

/-- The rename of a declared type that is projected under it as it is, without the lead of
the style. -/
def Declaration.plainRename? (overrides : Overrides) : Declaration → Option String
  | d@(.struct _ _) =>
    ((overrides.struct? d.key).filter fun o => !o.shouldProject).bind StructOverride.rename
  | d => (overrides.type? d.key).bind TypeOverride.rename

/-- A declared type that is known under a name but projected under none. -/
inductive Declaration.Unnamed (overrides : Overrides) : Declaration → Prop where
  /-- it is renamed to nothing, and the lead is not put in front -/
  | renamed {d : Declaration} (h : d.plainRename? overrides = some "") : Unnamed overrides d
  /-- it is an interface that is declared without a name and not renamed -/
  | interface {space : NamespaceDecl}
    (h : (Declaration.interface space "").plainRename? overrides = none) :
    Unnamed overrides (.interface space "")

theorem lead_append_ne_empty (h : style.lead ≠ "") (name : String) : style.lead ++ name ≠ "" :=
  fun happend => h (String.append_eq_empty_iff.1 happend).1

/-- A struct without a name is one that is renamed to nothing and not to be projected. -/
theorem eq_empty_iff_of_structNamed (hlead : style.lead ≠ "") {name projectedName : String}
    {override : Option StructOverride} (h : StructNamed style name override projectedName) :
    projectedName = "" ↔
      (override.filter fun o => !o.shouldProject).bind StructOverride.rename = some "" := by
  cases h with
  | derived hrename =>
    refine iff_of_false (lead_append_ne_empty hlead _) fun hfilter => ?_
    obtain ⟨o, ho, hempty⟩ := Option.bind_eq_some_iff.1 hfilter
    rw [(Option.filter_eq_some_iff.1 ho).1, Option.bind_some, hempty] at hrename
    cases hrename
  | projected _ hproject =>
    refine iff_of_false (lead_append_ne_empty hlead _) ?_
    rw [Option.filter_some, hproject, if_neg (by decide), Option.bind_none]
    exact Option.some_ne_none _ ∘ Eq.symm
  | renamed hrename hproject =>
    rw [Option.filter_some, hproject, Bool.not_false, if_pos rfl, Option.bind_some, hrename,
      Option.some.injEq]

/-- Any other type without a name is renamed to nothing, or not renamed and derived
without one. -/
theorem NamesFollow.eq_empty_iff {override : Option TypeOverride} {nativeName derived : String}
    {names : NamedType} (h : NamesFollow override nativeName derived names) :
    names.projectedName = "" ↔ override.bind TypeOverride.rename = some "" ∨
      override.bind TypeOverride.rename = none ∧ derived = "" := by
  rw [h.projectedName]
  cases override.bind TypeOverride.rename <;> simp

/-- A declaration that is no interface without a name is unnamed only by a rename. -/
theorem Declaration.unnamed_iff {d : Declaration} (h : ∀ space, d ≠ .interface space "") :
    d.Unnamed overrides ↔ d.plainRename? overrides = some "" := by
  constructor
  · intro hd
    cases hd with
    | renamed hrename => exact hrename
    | interface _ => exact absurd rfl (h _)
  · exact .renamed

/-- Under a lead, what is projected under no name are the unnamed declarations. -/
theorem projectedName_eq_empty_iff_of_describes {d : Declaration} {type : ProjectedType}
    (h : schema.Describes overrides style d type) (hlead : style.lead ≠ "") (hkey : d.key ≠ "") :
    type.projectedName = "" ↔ d.Unnamed overrides := by
  cases h with
  | primitive h =>
    rw [Declaration.unnamed_iff (by simp)]
    exact h.eq_empty_iff.trans (or_iff_left fun hnone => hkey hnone.2)
  | enumeration h =>
    rw [Declaration.unnamed_iff (by simp)]
    exact h.eq_empty_iff.trans (or_iff_left fun hnone => lead_append_ne_empty hlead _ hnone.2)
  | root _ h | child _ _ h =>
    rw [Declaration.unnamed_iff (by simp)]
    exact eq_empty_iff_of_structNamed hlead h.projectedName
  | interface h =>
    refine h.eq_empty_iff.trans ⟨?_, fun hd => ?_⟩
    · rintro (hrename | ⟨hnone, rfl⟩)
      · exact .renamed hrename
      · exact .interface hnone
    · cases hd with
      | renamed hrename => exact .inl hrename
      | interface hnone => exact .inr ⟨hnone, rfl⟩

/-- The type that a name stands for in a loaded registry has no name of its own exactly if
it is declared so. -/
theorem exists_declaration_of_load (h : load schema overrides style = .ok r)
    (hlead : style.lead ≠ "") {key : String} (hkey : key ≠ "") {type : ProjectedType}
    (hget : r.get? key = some type) :
    ∃ d ∈ schema.declarations, d.key = key ∧
      (type.projectedName = "" ↔ d.Unnamed overrides) := by
  obtain ⟨d, hd, rfl, hdescribes⟩ := exists_of_mem_of_forall₂
    (forall₂_describes_of_load h).flip (Table.get?_eq_some_iff.1 hget)
  exact ⟨d, hd, rfl, projectedName_eq_empty_iff_of_describes hdescribes hlead hkey⟩

/-! ## Structs to be emitted -/

/-- A struct to be emitted has the lead in its name. -/
theorem projectedName_ne_empty_of_load (h : load schema overrides style = .ok r)
    (hlead : style.lead ≠ "") {s : StructType} (hs : s ∈ r.worklist) : s.projectedName ≠ "" := by
  have hmem := List.mem_map_of_mem (f := StructType.projectedName) hs
  rw [map_projectedName_of_load h] at hmem
  obtain ⟨name, -, hname⟩ := List.mem_map.1 hmem
  exact hname ▸ lead_append_ne_empty hlead name

/-- The fields of a loaded struct are declared fields of structs, with names and types of
their own if the schema passes its check. -/
theorem exists_ofDecl_of_load (hcheck : schema.check = .ok ())
    (h : load schema overrides style = .ok r) {s : StructType} (hs : s ∈ r.structs)
    {f : StructField} (hf : f ∈ s.fields) :
    ∃ decl : FieldDecl, f = .ofDecl decl ∧ decl.name ≠ "" ∧ decl.typeName ≠ "" := by
  obtain ⟨space, decl, inherited, hmem, hfollows, hinherited⟩ := exists_structFollows_of_load h hs
  rw [hfollows.fields] at hf
  obtain ⟨fieldDecl, hfieldDecl, rfl⟩ := List.mem_map.1 hf
  refine ⟨fieldDecl, rfl, ?_⟩
  obtain hleft | hright := List.mem_append.1 hfieldDecl
  · obtain ⟨space', root, hroot, hroot'⟩ := hinherited fieldDecl hleft
    exact named_of_check hcheck hroot hroot'
  · exact named_of_check hcheck hmem hright

namespace Projection

open Markup (Element)

variable {config : Config} {output : Output}

/-- Whatever is generated, the types of all fields that are written are registered. -/
theorem isKnown_of_generate (h : generate r config = .ok output) {s : StructType}
    (hs : s ∈ r.worklist) {f : StructField} (hf : f ∈ s.fields) : r.IsKnown f := by
  obtain ⟨blocks, hall, -⟩ := exists_blocks_of_generate h
  obtain ⟨block, -, hblock⟩ := exists_of_mem_of_forall₂ hall hs
  exact ((exists_structBlock_iff config).1 ⟨block, hblock⟩).known f hf

/-- Under a lead, generation from documents gives every emitted struct a name.  Every field
that it writes has a declared name and a declared type; its property is empty exactly if
the declared name is made of underscores alone, and its type is written without a name
exactly if the type is renamed to nothing without the lead, or is an interface without a
name. -/
theorem named_except_for {schemaText : String} {overridesText : Option String} {config : Config}
    {output : Output} (h : generateFromTexts schemaText overridesText config = .ok output)
    (hlead : config.style.lead ≠ "") :
    ∃ schema overrides r, Stages schemaText overridesText config output schema overrides r ∧
      ∀ s ∈ r.worklist, s.projectedName ≠ "" ∧ ∀ f ∈ s.fields,
        f.name ≠ "" ∧ f.typeName ≠ "" ∧ (f.propertyName = "" ↔ ∀ c ∈ f.name.toList, c = '_') ∧
          ∃ d ∈ schema.declarations, d.key = f.typeName ∧
            ∃ type, r.get? f.typeName = some type ∧
              (type.projectedName = "" ↔ d.Unnamed overrides) := by
  obtain ⟨schema, overrides, r, hstages⟩ := generateFromTexts_eq_ok_iff.1 h
  refine ⟨schema, overrides, r, hstages, fun s hs => ⟨?_, fun f hf => ?_⟩⟩
  · exact projectedName_ne_empty_of_load hstages.loaded hlead hs
  · obtain ⟨type, hget⟩ := isKnown_of_generate hstages.generated hs hf
    obtain ⟨decl, rfl, hname, htypeName⟩ :=
      exists_ofDecl_of_load hstages.checked hstages.loaded (List.mem_filter.1 hs).1 hf
    obtain ⟨d, hd, hkey, hunnamed⟩ :=
      exists_declaration_of_load hstages.loaded hlead htypeName hget
    exact ⟨hname, htypeName, propertyNameOf_eq_empty_iff, d, hd, hkey, type, hget, hunnamed⟩

/-- The shape has a name, and so have the properties of its fields. -/
theorem named_except_for_shape :
    (default : Config).style.lead ≠ "" ∧ ∃ output schema overrides r,
      Stages shapeSchema.document (some (spaceOverrides ["SHAPE"]).document) default output schema
        overrides r ∧
      r.worklist.map StructType.projectedName = ["CanvasShape"] ∧
      (r.worklist.flatMap fun s => s.fields.map StructField.name) = ["x", "brush"] ∧
      ∀ s ∈ r.worklist, ∀ f ∈ s.fields, f.propertyName ≠ "" := by
  have hlead : (default : Config).style.lead ≠ "" := by decide
  obtain ⟨output, h⟩ := exists_generateFromTexts_shape
  obtain ⟨schema, overrides, r, hstages, hnamed⟩ := named_except_for h hlead
  have hshape : ∀ x ∈ loadedFrom shapeSchema (spaceOverrides ["SHAPE"]) default,
      x.2.2.worklist.map StructType.projectedName = ["CanvasShape"] ∧
      (x.2.2.worklist.flatMap fun s => s.fields.map StructField.name) = ["x", "brush"] := by
    decide +kernel
  obtain ⟨hstructs, hfields⟩ :=
    hshape _ (hstages.loadedFrom_eq written_shapeSchema written_shapeOverrides)
  refine ⟨hlead, output, schema, overrides, r, hstages, hstructs, hfields, ?_⟩
  intro s hs f hf hempty
  have hunderscores := ((hnamed s hs).2 f hf).2.2.1.1 hempty
  have hname : f.name ∈ ["x", "brush"] :=
    hfields ▸ List.mem_flatMap.2 ⟨s, hs, List.mem_map_of_mem hf⟩
  rw [List.mem_cons, List.mem_singleton] at hname
  rcases hname with hx | hbrush
  · rw [hx] at hunderscores
    exact absurd (hunderscores 'x' (by decide)) (by decide)
  · rw [hbrush] at hunderscores
    exact absurd (hunderscores 'b' (by decide)) (by decide)

/-- A struct with a field that is named by an underscore. -/
def underscoreSchema : Element :=
  spaceSchema [structElement "S" [fieldElement "_" "FLOAT"]]

/-- The line of the field ends in front of the name of its property. -/
theorem underscore_unnamed :
    (default : Config).style.lead = "Canvas" ∧
      (generateFromTexts underscoreSchema.document (some (spaceOverrides ["S"]).document)
        default).map (fun output => output.idl.text) =
          .ok ("[version(VERSION)]\ntypedef struct CanvasS\n\x7b\n" ++
            "    FLOAT ;\n\x7d CanvasS;\n\n") := by
  have hschema : WrittenSchema underscoreSchema underscoreSchema.document :=
    written_spaceSchema (by decide)
  rw [generateFromTexts_of_written hschema (written_spaceOverrides (by decide))]
  refine ⟨rfl, ?_⟩
  apply eq_ok_of_toOption
  decide +kernel

end Projection

end TypeProjection
