/-
  Proofs/Projection/Unions.lean --- structs that extend a union.

  A struct without a field list is a union and is not emitted.  Whether a struct is one is
  decided by its own declaration, so one that extends a union is emitted all the same.  The
  union lists no fields, so the struct inherits none, and both texts are what they would be
  if it extended nothing (`union_parents_verdict`).
-/
import TypeProjection.Proofs.Projection.Shown
import TypeProjection.Proofs.Projection.Worklist
import TypeProjection.Proofs.Registry.Rearranged

set_option autoImplicit false

namespace TypeProjection

variable {schema : Schema} {overrides : Overrides} {style : NameStyle} {r r' : Registry}

/-! ## Unions -/

/-- A declared struct without a field list. -/
def Declaration.IsUnion : Declaration → Prop
  | .struct _ content => content.isUnion = true
  | _ => False

instance : DecidablePred Declaration.IsUnion
  | .struct _ content => inferInstanceAs (Decidable (content.isUnion = true))
  | .primitive _ | .interface _ _ | .enumeration _ _ => inferInstanceAs (Decidable False)

/-- A qualified name is that of a declared union. -/
def Schema.DeclaresUnion (schema : Schema) (key : String) : Prop :=
  ∃ d ∈ schema.declarations, d.key = key ∧ d.IsUnion

instance (schema : Schema) : DecidablePred schema.DeclaresUnion := fun key =>
  inferInstanceAs (Decidable (∃ d ∈ schema.declarations, d.key = key ∧ d.IsUnion))

/-- A struct extends a declared union. -/
def Schema.ExtendsUnion (schema : Schema) (decl : StructDecl) : Prop :=
  ∃ parent, decl.parent = some parent ∧ schema.DeclaresUnion parent

/-- A struct is a union, or what it extends is one. -/
def Registry.HasUnionContent (r : Registry) (s : StructType) : Prop :=
  s.usesUnions = true ∨ ∃ parent ancestor, s.parent = some parent ∧
    r.get? parent = some (.struct ancestor) ∧ ancestor.usesUnions = true

/-- The unions of a loaded registry are the declared ones. -/
theorem exists_usesUnions_iff (h : load schema overrides style = .ok r) {key : String} :
    (∃ ancestor, r.get? key = some (.struct ancestor) ∧ ancestor.usesUnions = true) ↔
      schema.DeclaresUnion key := by
  simp only [get?_of_load h]
  constructor
  · rintro ⟨ancestor, ⟨d, hd, hkey, hfinished⟩, hunion⟩
    refine ⟨d, hd, hkey, ?_⟩
    cases d with
    | struct space decl =>
      obtain rfl : schema.finishedStruct overrides style space decl = ancestor :=
        ProjectedType.struct.inj hfinished
      exact hunion
    | primitive | interface | enumeration => cases hfinished
  · rintro ⟨d, hd, hkey, hunion⟩
    cases d with
    | struct space decl => exact ⟨_, ⟨_, hd, hkey, rfl⟩, hunion⟩
    | primitive | interface | enumeration => cases hunion

/-- A union of a loaded registry lists no fields. -/
theorem declaredFields_of_usesUnions (h : load schema overrides style = .ok r) {key : String}
    {ancestor : StructType} (hget : r.get? key = some (.struct ancestor))
    (hunion : ancestor.usesUnions = true) : ancestor.declaredFields = [] := by
  obtain ⟨d, -, -, hfinished⟩ := (get?_of_load h).1 hget
  cases d with
  | struct space decl =>
    obtain rfl : schema.finishedStruct overrides style space decl = ancestor :=
      ProjectedType.struct.inj hfinished
    have hnone : decl.fields = none := Option.isNone_iff_eq_none.1 hunion
    show decl.declaredFields.map StructField.ofDecl = []
    rw [StructDecl.declaredFields, hnone, Option.getD_none, List.map_nil]
  | primitive | interface | enumeration => cases hfinished

/-- What is emitted has a field list, so it has union content exactly if it extends a
union. -/
theorem hasUnionContent_finishedStruct_iff (h : load schema overrides style = .ok r)
    {space : Option NamespaceDecl} {decl : StructDecl} (hfields : decl.fields ≠ none) :
    r.HasUnionContent (schema.finishedStruct overrides style space decl) ↔
      schema.ExtendsUnion decl := by
  have hnone : ¬ (schema.finishedStruct overrides style space decl).usesUnions = true :=
    fun hunion => hfields (Option.isNone_iff_eq_none.1 hunion)
  rw [Registry.HasUnionContent, or_iff_right hnone, Schema.ExtendsUnion]
  refine exists_congr fun parent => ?_
  rw [exists_and_left, exists_usesUnions_iff h]
  exact Iff.rfl

/-! ## Structs that no longer extend a union -/

/-- The parent of a struct unless it is a union. -/
def Schema.soundParent (schema : Schema) (parent : Option String) : Option String :=
  parent.filter fun key => ¬ schema.DeclaresUnion key

/-- The declared struct, which no longer extends a union. -/
def Schema.detach (schema : Schema) (decl : StructDecl) : StructDecl :=
  { decl with parent := schema.soundParent decl.parent }

/-- The schema whose structs no longer extend unions. -/
def Schema.detached (schema : Schema) : Schema where
  primitives := schema.primitives
  structs := schema.structs.map schema.detach
  namespaces := schema.namespaces.map fun space =>
    { space with structs := space.structs.map schema.detach }

/-- A declaration whose struct, if it declares one, is changed. -/
def Declaration.mapStruct (f : StructDecl → StructDecl) : Declaration → Declaration
  | .struct space content => .struct space (f content)
  | d => d

theorem Schema.bareDeclarations_detached (schema : Schema) :
    schema.detached.bareDeclarations =
      schema.bareDeclarations.map (Declaration.mapStruct schema.detach) := by
  simp only [bareDeclarations, declarations, detached, NamespaceDecl.declarations,
    List.map_append, List.map_map, List.map_flatMap, List.flatMap_map]
  rfl

theorem Declaration.key_mapStruct_detach (d : Declaration) :
    (d.mapStruct schema.detach).key = d.key := by
  cases d with
  | struct space decl => cases space <;> rfl
  | primitive | interface | enumeration => rfl

theorem Schema.declaresUnion_iff_bare {key : String} :
    schema.DeclaresUnion key ↔ ∃ d ∈ schema.bareDeclarations, d.key = key ∧ d.IsUnion := by
  have hunion : ∀ d : Declaration, d.bare.IsUnion ↔ d.IsUnion := by
    intro d
    cases d <;> exact Iff.rfl
  simp only [DeclaresUnion, bareDeclarations, List.mem_map, exists_exists_and_eq_and,
    Declaration.key_bare, hunion]

/-- The same structs are unions. -/
theorem Schema.declaresUnion_detached_iff {key : String} :
    schema.detached.DeclaresUnion key ↔ schema.DeclaresUnion key := by
  have hunion : ∀ d : Declaration, (d.mapStruct schema.detach).IsUnion ↔ d.IsUnion := by
    intro d
    cases d <;> exact Iff.rfl
  simp only [declaresUnion_iff_bare, bareDeclarations_detached, List.mem_map,
    exists_exists_and_eq_and, Declaration.key_mapStruct_detach, hunion]

theorem Schema.not_extendsUnion_detach (decl : StructDecl) :
    ¬ schema.detached.ExtendsUnion (schema.detach decl) := by
  rintro ⟨parent, hparent, hunion⟩
  have hsound := (Option.filter_eq_some_iff.1 hparent).2
  exact of_decide_eq_true hsound (declaresUnion_detached_iff.1 hunion)

/-- A struct without a parent can still be extended. -/
theorem Schema.declaresRoot_detached {key : String} {root : StructDecl}
    (h : schema.DeclaresRoot key root) : schema.detached.DeclaresRoot key root := by
  obtain ⟨d, hd, hkey, ⟨space, rfl⟩, hroot⟩ := declaresRoot_iff_bare.1 h
  have hsame : schema.detach root = root := by
    obtain ⟨name, parent, fields⟩ := root
    obtain rfl : parent = none := hroot
    rfl
  refine declaresRoot_iff_bare.2 ⟨_, ?_, hkey, ⟨space, rfl⟩, hroot⟩
  rw [bareDeclarations_detached]
  exact List.mem_map.2 ⟨_, hd, congrArg (Declaration.struct space) hsame⟩

/-- The schema is still loaded. -/
theorem exists_load_detached (h : load schema overrides style = .ok r) :
    ∃ r', load schema.detached overrides style = .ok r' := by
  obtain ⟨hkeys, hparents⟩ := exists_load_iff_bare.1 ⟨r, h⟩
  refine exists_load_iff_bare.2 ⟨?_, ?_⟩
  · rw [schema.bareDeclarations_detached, List.map_map]
    simpa only [Function.comp_def, Declaration.key_mapStruct_detach] using hkeys
  · rw [schema.bareDeclarations_detached, List.forall_mem_map]
    intro d hd
    cases d with
    | struct space decl =>
      refine Schema.parentDeclared_struct_iff.2 fun parent hparent => ?_
      have hdeclared := (Option.filter_eq_some_iff.1 hparent).1
      obtain ⟨root, hroot⟩ := Schema.parentDeclared_struct_iff.1 (hparents _ hd) parent hdeclared
      exact ⟨root, Schema.declaresRoot_detached hroot⟩
    | primitive | interface | enumeration => simp [Schema.ParentDeclared, Declaration.mapStruct]

/-! ## What is inherited -/

/-- A union that is extended lists no fields. -/
theorem Schema.declaredFields_of_declaresUnion (hkeys : schema.keys.Nodup) {key : String}
    {root : StructDecl} (hroot : schema.DeclaresRoot key root) (hunion : schema.DeclaresUnion key) :
    root.declaredFields = [] := by
  obtain ⟨space, hmem, hkey, -⟩ := hroot
  obtain ⟨d, hd, hkey', hunion⟩ := hunion
  obtain rfl := schema.declaration_eq_of_key hkeys hd hmem (hkey'.trans hkey.symm)
  rw [StructDecl.declaredFields, Option.isNone_iff_eq_none.1 hunion, Option.getD_none]

/-- A struct inherits the same fields whether it extends a union or nothing. -/
theorem inheritedFields_detach (h : load schema overrides style = .ok r)
    {space : Option NamespaceDecl} {decl : StructDecl} (hd : .struct space decl ∈ schema.bareDeclarations) :
    schema.detached.inheritedFields (schema.detach decl) = schema.inheritedFields decl := by
  have hkeys := nodup_keys_of_load h
  obtain ⟨r', h'⟩ := exists_load_detached h
  cases hparent : decl.parent with
  | none =>
    have hdetached : (schema.detach decl).parent = none := by
      rw [Schema.detach, hparent]
      rfl
    rw [Schema.inheritedFields_of_root hparent, Schema.inheritedFields_of_root hdetached]
  | some parent =>
    have hparents := (exists_load_iff_bare.1 ⟨r, h⟩).2
    obtain ⟨root, hroot⟩ := Schema.parentDeclared_struct_iff.1 (hparents _ hd) parent hparent
    rw [Schema.inheritedFields_of_declaresRoot hkeys hparent hroot]
    by_cases hunion : schema.DeclaresUnion parent
    · have hdetached : (schema.detach decl).parent = none := by
        simp only [Schema.detach, Schema.soundParent, hparent, Option.filter_eq_none_iff,
          Option.some.injEq, forall_eq', hunion, not_true_eq_false, decide_false,
          Bool.false_eq_true, not_false_eq_true]
      rw [Schema.inheritedFields_of_root hdetached,
        schema.declaredFields_of_declaresUnion hkeys hroot hunion]
    · have hdetached : (schema.detach decl).parent = some parent :=
        Option.filter_eq_some_iff.2 ⟨hparent, decide_eq_true hunion⟩
      exact Schema.inheritedFields_of_declaresRoot (nodup_keys_of_load h') hdetached
        (Schema.declaresRoot_detached hroot)

/-! ## The registry -/

/-- The struct, which no longer extends a union. -/
def StructType.detach (schema : Schema) (s : StructType) : StructType :=
  { s with parent := schema.soundParent s.parent }

theorem finishedStruct_detach (h : load schema overrides style = .ok r)
    {space : Option NamespaceDecl} {decl : StructDecl}
    (hd : .struct space decl ∈ schema.bareDeclarations) :
    schema.detached.finishedStruct overrides style space (schema.detach decl) =
      (schema.finishedStruct overrides style space decl).detach schema := by
  have hfields : schema.detached.allFields (schema.detach decl) = schema.allFields decl := by
    rw [Schema.allFields, Schema.allFields, inheritedFields_detach h hd]
    rfl
  rw [Schema.finishedStruct, hfields]
  cases space <;> rfl

/-- The type, which, if it is a struct, no longer extends a union. -/
def ProjectedType.detach (schema : Schema) : ProjectedType → ProjectedType
  | .struct s => .struct (s.detach schema)
  | type => type

theorem finished_detach (h : load schema overrides style = .ok r) {d : Declaration}
    (hd : d ∈ schema.bareDeclarations) :
    schema.detached.finished overrides style (d.mapStruct schema.detach) =
      (schema.finished overrides style d).detach schema := by
  cases d with
  | struct space decl => exact congrArg ProjectedType.struct (finishedStruct_detach h hd)
  | primitive | interface | enumeration => rfl

theorem get?_detached (h : load schema overrides style = .ok r)
    (h' : load schema.detached overrides style = .ok r') (key : String) :
    r'.get? key = (r.get? key).map (ProjectedType.detach schema) := by
  refine Option.ext fun type => ?_
  rw [get?_of_load_bare h', Option.map_eq_some_iff, schema.bareDeclarations_detached]
  simp only [get?_of_load_bare h, List.mem_map, exists_exists_and_eq_and,
    Declaration.key_mapStruct_detach]
  constructor
  · rintro ⟨d, hd, hkey, rfl⟩
    exact ⟨_, ⟨d, hd, hkey, rfl⟩, (finished_detach h hd).symm⟩
  · rintro ⟨-, ⟨d, hd, hkey, rfl⟩, rfl⟩
    exact ⟨d, hd, hkey, finished_detach h hd⟩

theorem worklist_detached (h : load schema overrides style = .ok r)
    (h' : load schema.detached overrides style = .ok r') :
    r'.worklist = r.worklist.map (StructType.detach schema) := by
  rw [worklist_of_load_bare h, worklist_of_load_bare h', schema.bareDeclarations_detached,
    List.filterMap_map, List.map_filterMap]
  refine List.filterMap_congr fun d hd => ?_
  rw [Function.comp_apply, Schema.emitted?, Schema.emitted?, finished_detach h hd]
  cases schema.finished overrides style d with
  | struct s =>
    simp only [ProjectedType.detach, ProjectedType.struct?, Option.filter_some]
    cases hincluded : s.included <;> simp [StructType.detach, hincluded]
  | primitive | interface | enumeration => rfl

namespace Projection

variable {config : Config}

/-- What is written for a struct does not show what it extends. -/
theorem structBlock_detach (s : StructType) :
    structBlock r config (s.detach schema) = structBlock r config s := by
  have hkind : ∀ fields, kindOfFields r (s.detach schema) fields = kindOfFields r s fields := by
    intro fields
    induction fields with
    | nil => rfl
    | cons f fields ih =>
      rw [kindOfFields, kindOfFields, ih]
      rfl
  unfold structBlock selectKind
  rw [hkind]
  rfl

/-- Both texts are the same if nothing extends a union. -/
theorem generate_detached (h : load schema overrides style = .ok r)
    (h' : load schema.detached overrides style = .ok r') (config : Config) :
    generate r' config = generate r config := by
  have hshown : ∀ f : StructField, ShownAlikeIn r' r f := by
    intro f
    rw [ShownAlikeIn, get?_detached h h', Option.map_map]
    congr 1
    funext type
    cases type <;> rfl
  rw [generate_eq, generate_eq, worklist_detached h h', List.mapM_map]
  congr 1
  refine mapM_congr_left fun s _ => ?_
  rw [Function.comp_apply, structBlock_congr fun f _ => hshown f, structBlock_detach]

/-- What is emitted comes from a struct that was selected. -/
theorem mem_worklist_iff_selected (h : load schema overrides style = .ok r) {s : StructType} :
    s ∈ r.worklist ↔ ∃ x ∈ schema.selected overrides,
      schema.finishedStruct overrides style (some x.1) x.2 = s := by
  rw [worklist_eq_selected h, List.mem_map]

theorem fields_ne_none_of_selected {x : NamespaceDecl × StructDecl}
    (hx : x ∈ schema.selected overrides) : x.2.fields ≠ none := by
  obtain ⟨space, -, hspace⟩ := List.mem_flatMap.1 hx
  obtain ⟨decl, hdecl, rfl⟩ := List.mem_map.1 hspace
  exact (of_decide_eq_true (List.mem_filter.1 hdecl).2).1

theorem exists_detach_of_selected {x : NamespaceDecl × StructDecl}
    (hx : x ∈ schema.detached.selected overrides) : ∃ decl, x.2 = schema.detach decl := by
  obtain ⟨space, hspace, hmem⟩ := List.mem_flatMap.1 hx
  obtain ⟨decl, hdecl, rfl⟩ := List.mem_map.1 hmem
  obtain ⟨home, -, rfl⟩ := List.mem_map.1 hspace
  obtain ⟨decl', -, rfl⟩ := List.mem_map.1 (List.mem_filter.1 hdecl).1
  exact ⟨decl', rfl⟩

/-- Nothing that is emitted has union content exactly if nothing that is selected extends a
union. -/
theorem forall_not_hasUnionContent_iff (h : load schema overrides style = .ok r) :
    (∀ s ∈ r.worklist, ¬ r.HasUnionContent s) ↔
      ∀ x ∈ schema.selected overrides, ¬ schema.ExtendsUnion x.2 := by
  simp only [mem_worklist_iff_selected h, forall_exists_index, and_imp, forall_apply_eq_imp_iff₂]
  refine forall₂_congr fun x hx => ?_
  rw [hasUnionContent_finishedStruct_iff h (fields_ne_none_of_selected hx)]

/-- A box that extends a variant, which has no field list. -/
def variantSchema : Schema where
  primitives := ["FLOAT"]
  structs := []
  namespaces := [{
    name := "Geo", apiName := "Geo"
    structs := [⟨"VARIANT", none, none⟩, ⟨"BOX", some "Geo::VARIANT", some [⟨"x", "FLOAT"⟩]⟩]
    interfaces := [], enums := [] }]

/-- Overrides that ask for both. -/
def variantOverrides : Overrides where
  structs := {
    entries := [("Geo::VARIANT", ⟨none, none, true, none⟩), ("Geo::BOX", ⟨none, none, true, none⟩)]
    keys_nodup := by simp }
  types := .empty

/-- The interface definitions of the box, which show its own field only. -/
def boxDefinition : String :=
  "[version(VERSION)]\ntypedef struct CanvasBox\n\x7b\n    FLOAT X;\n\x7d CanvasBox;\n\n"

theorem exists_generate_variant :
    ∃ r output, load variantSchema variantOverrides default = .ok r ∧
      generate r default = .ok output ∧ output.idl.text = boxDefinition := by
  have hsome : ((load variantSchema variantOverrides default).toOption.bind fun r =>
      (generate r default).toOption.filter (·.idl.text = boxDefinition)).isSome := by
    decide +kernel
  obtain ⟨output, h⟩ := Option.isSome_iff_exists.1 hsome
  obtain ⟨r, hr, houtput⟩ := Option.bind_eq_some_iff.1 h
  obtain ⟨hgenerate, htext⟩ := Option.filter_eq_some_iff.1 houtput
  exact ⟨r, output, eq_ok_of_toOption hr, eq_ok_of_toOption hgenerate, of_decide_eq_true htext⟩

/-- The box is emitted although what it extends is a union. -/
theorem box_extends_union :
    ∃ r output box, load variantSchema variantOverrides default = .ok r ∧
      generate r default = .ok output ∧ output.idl.text = boxDefinition ∧
      box ∈ r.worklist ∧ box.qualifiedName = "Geo::BOX" ∧ r.HasUnionContent box := by
  obtain ⟨r, output, h, houtput, htext⟩ := exists_generate_variant
  have hbox : .struct (some variantSchema.namespaces[0]) variantSchema.namespaces[0].structs[1] ∈
      variantSchema.declarations := by
    decide
  refine ⟨r, output, _, h, houtput, htext, (mem_worklist_of_load_iff h hbox).2 ?_, rfl, ?_⟩
  · exact ⟨⟨_, rfl⟩, by decide, by decide⟩
  · exact (hasUnionContent_finishedStruct_iff h (by decide)).2 ⟨"Geo::VARIANT", rfl, by decide⟩

/-- No struct that is emitted is a union itself, but it may extend one; then it inherits
nothing.  So nothing that is emitted has union content exactly if nothing that is selected
extends a union, and in any case both texts are those of a schema in which nothing does. -/
theorem union_parents_verdict {schema : Schema} {overrides : Overrides} {style : NameStyle}
    {r : Registry} (h : load schema overrides style = .ok r) :
    (∀ s ∈ r.worklist, s.usesUnions = false) ∧
    ((∀ s ∈ r.worklist, ¬ r.HasUnionContent s) ↔
      ∀ x ∈ schema.selected overrides, ¬ schema.ExtendsUnion x.2) ∧
    (∀ s ∈ r.worklist, ∀ parent, s.parent = some parent →
      ∃ ancestor, r.get? parent = some (.struct ancestor) ∧
        s.fields = ancestor.declaredFields ++ s.declaredFields ∧
        (ancestor.usesUnions = true → s.fields = s.declaredFields)) ∧
    ∃ r', load schema.detached overrides style = .ok r' ∧
      (∀ s ∈ r'.worklist, ¬ r'.HasUnionContent s) ∧
      ∀ config, generate r' config = generate r config := by
  refine ⟨fun s hs => ?_, forall_not_hasUnionContent_iff h, fun s hs parent hparent => ?_, ?_⟩
  · obtain ⟨x, hx, rfl⟩ := (mem_worklist_iff_selected h).1 hs
    exact Option.isNone_eq_false_iff.2 (Option.isSome_iff_ne_none.2 (fields_ne_none_of_selected hx))
  · obtain ⟨b, -, hb⟩ := load_eq_ok_iff.1 h
    have hstruct : s ∈ r.structs := (List.mem_filter.1 hs).1
    obtain ⟨ancestor, hget, hfields⟩ := Registry.Builder.fields_of_build hb hstruct hparent
    refine ⟨ancestor, hget, hfields, fun hunion => ?_⟩
    rw [hfields, declaredFields_of_usesUnions h hget hunion, List.nil_append]
  · obtain ⟨r', h'⟩ := exists_load_detached h
    refine ⟨r', h', ?_, generate_detached h h'⟩
    rw [forall_not_hasUnionContent_iff h']
    intro x hx
    obtain ⟨decl, hdecl⟩ := exists_detach_of_selected hx
    rw [hdecl]
    exact schema.not_extendsUnion_detach decl

/-- The box gets the text that it would have if it extended nothing. -/
theorem union_parents_verdict_variant :
    ∃ r r' output, load variantSchema variantOverrides default = .ok r ∧
      load variantSchema.detached variantOverrides default = .ok r' ∧
      (∀ s ∈ r'.worklist, ¬ r'.HasUnionContent s) ∧
      ¬ (∀ s ∈ r.worklist, ¬ r.HasUnionContent s) ∧
      generate r' default = .ok output ∧ output.idl.text = boxDefinition := by
  obtain ⟨r, output, h, houtput, htext⟩ := exists_generate_variant
  obtain ⟨-, hiff, -, r', h', hnone, hsame⟩ := union_parents_verdict h
  refine ⟨r, r', output, h, h', hnone, ?_, (hsame default).trans houtput, htext⟩
  rw [hiff]
  intro hselected
  exact hselected (variantSchema.namespaces[0], variantSchema.namespaces[0].structs[1]) (by decide)
    ⟨"Geo::VARIANT", rfl, by decide⟩

end Projection

end TypeProjection
