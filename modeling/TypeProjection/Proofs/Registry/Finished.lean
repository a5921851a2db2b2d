/-
  Proofs/Registry/Finished.lean --- what a loaded registry holds, without loading it.

  A loaded registry has one type for every declaration: the descriptor of that
  declaration and, if it is a struct with a parent, the fields listed under the name of
  the parent in front of its own (`entries_of_load`).  Look-ups and the worklist are read
  off the declarations in the same way.
-/
import Mathlib.Data.List.Nodup
import TypeProjection.Proofs.Registry.Loading

set_option autoImplicit false

namespace TypeProjection

variable {schema : Schema} {overrides : Overrides} {style : NameStyle} {r : Registry}

/-! ## Inherited fields -/

/-- The fields that a declaration lists; only a struct lists any. -/
def Declaration.listedFields : Declaration → List FieldDecl
  | .struct _ content => content.declaredFields
  | _ => []

/-- The fields that a struct inherits: those listed under the name of its parent. -/
def Schema.inheritedFields (schema : Schema) (decl : StructDecl) : List FieldDecl :=
  (schema.declarations.find? fun d => decl.parent = some d.key).elim [] Declaration.listedFields

/-- All fields of a struct, those that it inherits first. -/
def Schema.allFields (schema : Schema) (decl : StructDecl) : List StructField :=
  (schema.inheritedFields decl ++ decl.declaredFields).map StructField.ofDecl

theorem Schema.inheritedFields_of_root {decl : StructDecl} (h : decl.parent = none) :
    schema.inheritedFields decl = [] := by
  have hnone : schema.declarations.find? (fun d => decl.parent = some d.key) = none := by
    rw [List.find?_eq_none]
    intro d _
    simp [h]
  rw [inheritedFields, hnone, Option.elim_none]

/-- Declarations with distinct names are the same if they have the same name. -/
theorem Schema.declaration_eq_of_key (hkeys : schema.keys.Nodup) {d d' : Declaration}
    (hd : d ∈ schema.declarations) (hd' : d' ∈ schema.declarations) (h : d.key = d'.key) :
    d = d' := by
  rw [← schema.map_key_declarations] at hkeys
  exact List.inj_on_of_nodup_map hkeys hd hd' h

theorem Schema.inheritedFields_of_declaresRoot (hkeys : schema.keys.Nodup) {parent : String}
    {decl root : StructDecl} (hparent : decl.parent = some parent)
    (hroot : schema.DeclaresRoot parent root) :
    schema.inheritedFields decl = root.declaredFields := by
  obtain ⟨space, hmem, rfl, -⟩ := hroot
  rw [inheritedFields]
  cases hfind : schema.declarations.find? fun d => decl.parent = some d.key with
  | none =>
    rw [List.find?_eq_none] at hfind
    exact absurd hparent (by simpa using hfind _ hmem)
  | some d =>
    have hkey : decl.parent = some d.key := by simpa using List.find?_some hfind
    have hsame : d = .struct space root :=
      schema.declaration_eq_of_key hkeys (List.mem_of_find?_eq_some hfind) hmem
        (Option.some.inj (hkey.symm.trans hparent))
    rw [hsame, Option.elim_some, Declaration.listedFields]

/-! ## Finished types -/

/-- The finished descriptor of a declared struct. -/
def Schema.finishedStruct (schema : Schema) (overrides : Overrides) (style : NameStyle)
    (space : Option NamespaceDecl) (decl : StructDecl) : StructType :=
  { describeStruct space decl (overrides.struct? (Declaration.struct space decl).key) style with
    fields := schema.allFields decl }

/-- The finished type of a declaration. -/
def Schema.finished (schema : Schema) (overrides : Overrides) (style : NameStyle) :
    Declaration → ProjectedType
  | .struct space decl => .struct (schema.finishedStruct overrides style space decl)
  | d => d.describe overrides style

@[simp] theorem Schema.qualifiedName_finishedStruct (space : Option NamespaceDecl)
    (decl : StructDecl) :
    (schema.finishedStruct overrides style space decl).qualifiedName =
      (Declaration.struct space decl).key := by
  cases space <;> rfl

@[simp] theorem Schema.fields_finishedStruct (space : Option NamespaceDecl)
    (decl : StructDecl) :
    (schema.finishedStruct overrides style space decl).fields = schema.allFields decl := rfl

/-- A type that was registered for a declaration becomes the finished type of that
declaration. -/
theorem finished_of_inherits {b : Registry.Builder} (hb : b.Holds overrides style schema)
    {d : Declaration} {type : ProjectedType}
    (h : (Registry.mk b.types).Inherits (d.describe overrides style) type) :
    type = schema.finished overrides style d := by
  have hkeys : schema.keys.Nodup := hb.keys_eq ▸ b.types.keys_nodup
  cases d with
  | primitive name | interface space name | enumeration space name =>
    cases h
    rfl
  | struct space decl =>
    cases h with
    | child hparent hget hancestor =>
      obtain ⟨root, hroot, hfields⟩ := (exists_root_iff hb).1 ⟨_, hget, hancestor, rfl⟩
      have hinherited := schema.inheritedFields_of_declaresRoot hkeys hparent hroot
      rw [Schema.finished, Schema.finishedStruct, Schema.allFields, hinherited, List.map_append,
        hfields]
      rfl
    | root hparent =>
      have hinherited := schema.inheritedFields_of_root hparent
      rw [Schema.finished, Schema.finishedStruct, Schema.allFields, hinherited, List.nil_append]
      rfl
    | other h => exact absurd rfl (Declaration.struct?_describe_eq_none_iff.1 h space decl)

/-! ## Loading -/

/-- Loading succeeds with what building gives for all declarations. -/
theorem load_eq_ok_iff :
    load schema overrides style = .ok r ↔
      ∃ b : Registry.Builder, b.Holds overrides style schema ∧ b.build = .ok r := by
  constructor
  · intro h
    by_cases hkeys : schema.keys.Nodup
    · obtain ⟨b, hb, hload⟩ := exists_holds_of_nodup overrides style hkeys
      exact ⟨b, hb, hload.symm.trans h⟩
    · obtain ⟨d, hd⟩ := exists_firstRepeated_of_not_nodup overrides style hkeys
      rw [load_of_firstRepeated overrides style hd] at h
      cases h
  · rintro ⟨b, hb, hbuild⟩
    have hkeys : schema.keys.Nodup := hb.keys_eq ▸ b.types.keys_nodup
    obtain ⟨b', hb', hload⟩ := exists_holds_of_nodup overrides style hkeys
    obtain rfl : b = b' := congrArg Registry.Builder.mk (Table.ext (hb.trans hb'.symm))
    exact hload.trans hbuild

theorem exists_load_iff :
    (∃ r, load schema overrides style = .ok r) ↔
      schema.keys.Nodup ∧ ∀ d ∈ schema.declarations, schema.ParentDeclared d := by
  constructor
  · rintro ⟨r, h⟩
    obtain ⟨b, hb, hbuild⟩ := load_eq_ok_iff.1 h
    exact ⟨hb.keys_eq ▸ b.types.keys_nodup, (exists_load_iff_of_holds hb).1 ⟨r, hbuild⟩⟩
  · rintro ⟨hkeys, hparents⟩
    obtain ⟨b, hb, hload⟩ := exists_holds_of_nodup overrides style hkeys
    rw [hload]
    exact (exists_load_iff_of_holds hb).2 hparents

/-- Whether a schema is loaded, and what is reported if it is not, depends on its
declarations alone. -/
theorem load_eq_error_congr (overrides overrides' : Overrides) (style style' : NameStyle)
    {e : SchemaError} :
    load schema overrides style = .error e ↔ load schema overrides' style' = .error e := by
  by_cases hkeys : schema.keys.Nodup
  · obtain ⟨b, hb, hload⟩ := exists_holds_of_nodup overrides style hkeys
    obtain ⟨b', hb', hload'⟩ := exists_holds_of_nodup overrides' style' hkeys
    rw [hload, hload', build_error_iff_of_holds hb, build_error_iff_of_holds hb']
  · obtain ⟨d, hd⟩ := exists_firstRepeated_of_not_nodup overrides style hkeys
    rw [load_of_firstRepeated overrides style hd, load_of_firstRepeated overrides' style' hd]

/-- A loaded registry has the finished type of every declaration under its name, in the
order of the declarations. -/
theorem entries_of_load (h : load schema overrides style = .ok r) :
    r.types.entries =
      schema.declarations.map fun d => (d.key, schema.finished overrides style d) := by
  obtain ⟨b, hb, hbuild⟩ := load_eq_ok_iff.1 h
  have hall := Registry.Builder.build_eq_ok_iff.1 hbuild
  rw [hb, List.forall₂_map_left_iff] at hall
  have hentries : List.Forall₂ (· = ·)
      (schema.declarations.map fun d => (d.key, schema.finished overrides style d))
      r.types.entries := by
    rw [List.forall₂_map_left_iff]
    exact hall.imp fun d entry hd => Prod.ext hd.1.symm (finished_of_inherits hb hd.2).symm
  exact (List.forall₂_eq_eq_eq ▸ hentries :
    (schema.declarations.map fun d => (d.key, schema.finished overrides style d)) =
      r.types.entries).symm

/-- Loaded are only declarations with distinct names. -/
theorem nodup_keys_of_load (h : load schema overrides style = .ok r) : schema.keys.Nodup := by
  obtain ⟨b, hb, -⟩ := load_eq_ok_iff.1 h
  exact hb.keys_eq ▸ b.types.keys_nodup

/-- A name stands for the finished type of the declaration that has it. -/
theorem get?_of_load (h : load schema overrides style = .ok r) {key : String}
    {type : ProjectedType} :
    r.get? key = some type ↔
      ∃ d ∈ schema.declarations, d.key = key ∧ schema.finished overrides style d = type := by
  rw [Registry.get?, Table.get?_eq_some_iff, entries_of_load h, List.mem_map]
  simp only [Prod.mk.injEq]

/-- The structs of a loaded registry are those outside namespaces and then those of the
namespaces, in the order of the document. -/
theorem structs_of_load (h : load schema overrides style = .ok r) :
    r.structs = schema.structs.map (schema.finishedStruct overrides style none) ++
      schema.namespaces.flatMap fun space =>
        space.structs.map (schema.finishedStruct overrides style (some space)) := by
  have hspace : ∀ space : NamespaceDecl,
      space.declarations.filterMap (fun d => (schema.finished overrides style d).struct?) =
        space.structs.map (schema.finishedStruct overrides style (some space)) := by
    intro space
    have hstructs : space.structs.filterMap (fun decl =>
        (schema.finished overrides style (.struct (some space) decl)).struct?) =
          space.structs.map (schema.finishedStruct overrides style (some space)) :=
      congrFun List.filterMap_eq_map space.structs
    have hinterfaces : space.interfaces.filterMap (fun name =>
        (schema.finished overrides style (.interface space name)).struct?) = [] :=
      List.filterMap_eq_nil_iff.2 fun _ _ => rfl
    have henums : space.enums.filterMap (fun name =>
        (schema.finished overrides style (.enumeration space name)).struct?) = [] :=
      List.filterMap_eq_nil_iff.2 fun _ _ => rfl
    simp only [NamespaceDecl.declarations, List.filterMap_append, List.filterMap_map,
      Function.comp_def, hstructs, hinterfaces, henums, List.append_nil]
  have hprimitives : schema.primitives.filterMap (fun name =>
      (schema.finished overrides style (.primitive name)).struct?) = [] :=
    List.filterMap_eq_nil_iff.2 fun _ _ => rfl
  have hglobals : schema.structs.filterMap (fun decl =>
      (schema.finished overrides style (.struct none decl)).struct?) =
        schema.structs.map (schema.finishedStruct overrides style none) :=
    congrFun List.filterMap_eq_map schema.structs
  rw [Registry.structs, Table.values, entries_of_load h]
  simp only [Schema.declarations, List.map_append, List.filterMap_append, List.map_map,
    List.filterMap_map, Function.comp_def, hprimitives, hglobals, List.map_flatMap,
    List.filterMap_flatMap, hspace, List.nil_append]

/-- Structs outside namespaces are not emitted, so the worklist has structs of namespaces. -/
theorem worklist_eq_filter (h : load schema overrides style = .ok r) :
    r.worklist = (schema.namespaces.flatMap fun space =>
      space.structs.map (schema.finishedStruct overrides style (some space))).filter
        (·.included) := by
  have hglobals : (schema.structs.map (schema.finishedStruct overrides style none)).filter
      (·.included) = [] := by
    rw [List.filter_eq_nil_iff, List.forall_mem_map]
    exact fun _ _ hincluded => Bool.false_ne_true hincluded
  rw [Registry.worklist, structs_of_load h, List.filter_append, hglobals, List.nil_append]

/-- The finished struct of a declaration, if it is to be emitted. -/
def Schema.emitted? (schema : Schema) (overrides : Overrides) (style : NameStyle)
    (d : Declaration) : Option StructType :=
  (schema.finished overrides style d).struct?.filter (·.included)

/-- The worklist has the finished structs that are to be emitted, in the order of the
declarations. -/
theorem worklist_of_load (h : load schema overrides style = .ok r) :
    r.worklist = schema.declarations.filterMap (schema.emitted? overrides style) := by
  rw [Registry.worklist, Registry.structs, Table.values, entries_of_load h, List.map_map,
    List.filterMap_map, List.filter_filterMap]
  rfl

/-- What is emitted for a declaration has its name. -/
theorem Schema.qualifiedName_of_emitted? {d : Declaration} {s : StructType}
    (h : schema.emitted? overrides style d = some s) : s.qualifiedName = d.key := by
  cases d with
  | struct space decl =>
    obtain ⟨hs, -⟩ := Option.filter_eq_some_iff.1 h
    obtain rfl : schema.finishedStruct overrides style space decl = s := Option.some.inj hs
    exact qualifiedName_finishedStruct space decl
  | primitive name | interface space name | enumeration space name => cases h

/-- The structs on the worklist have names of their own, in the order of the
declarations. -/
theorem worklist_names_sublist (h : load schema overrides style = .ok r) :
    (r.worklist.map StructType.qualifiedName).Sublist schema.keys := by
  rw [worklist_of_load h, ← schema.map_key_declarations]
  induction schema.declarations with
  | nil => exact .slnil
  | cons d ds ih =>
    cases hd : schema.emitted? overrides style d with
    | none =>
      rw [List.filterMap_cons_none hd]
      exact ih.cons _
    | some s =>
      rw [List.filterMap_cons_some hd, List.map_cons, List.map_cons,
        schema.qualifiedName_of_emitted? hd]
      exact ih.cons_cons _

end TypeProjection
