/-
  Proofs/Projection/Worklist.lean --- which structs are emitted, and in what order.

  A struct is selected by its own declaration and its own override: it stands in a
  namespace, has a field list, and the override asks for it.  The worklist has exactly
  the selected structs, in the order of the document, and the others differ from them in
  nothing but that (`worklist_verdict`).
-/
import TypeProjection.Proofs.Projection.Emission
import TypeProjection.Proofs.Registry.Finished
import TypeProjection.Proofs.Schema.Checking

set_option autoImplicit false

namespace TypeProjection

variable {schema : Schema} {overrides : Overrides} {style : NameStyle} {r : Registry}

/-! ## Selection -/

/-- The override of a struct with a qualified name asks for it to be emitted. -/
def Overrides.Asks (overrides : Overrides) (key : String) : Prop :=
  ∃ o, overrides.struct? key = some o ∧ o.shouldProject = true

instance (overrides : Overrides) (key : String) : Decidable (overrides.Asks key) :=
  decidable_of_iff ((overrides.struct? key).any StructOverride.shouldProject = true)
    (Option.any_eq_true _ _)

/-- The structs of namespaces that have a field list and whose override asks for them, each
with its namespace, in the order of the document. -/
def Schema.selected (schema : Schema) (overrides : Overrides) :
    List (NamespaceDecl × StructDecl) :=
  schema.namespaces.flatMap fun space =>
    (space.structs.filter fun decl =>
      decl.fields ≠ none ∧ overrides.Asks (space.qualify decl.name)).map (space, ·)

/-- The qualified names of the selected structs, in their order. -/
def Schema.selectedKeys (schema : Schema) (overrides : Overrides) : List String :=
  (schema.selected overrides).map fun (space, decl) => space.qualify decl.name

theorem Schema.included_finishedStruct_iff {space : Option NamespaceDecl} {decl : StructDecl} :
    (schema.finishedStruct overrides style space decl).included = true ↔
      (∃ home, space = some home) ∧ decl.fields ≠ none ∧
        overrides.Asks (Declaration.struct space decl).key :=
  (structFollows_describeStruct style _ space decl []).included

theorem Schema.selected_eq_nil (h : ∀ key, ¬ overrides.Asks key) :
    schema.selected overrides = [] := by
  rw [selected, List.flatMap_eq_nil_iff]
  intro space _
  rw [List.map_eq_nil_iff, List.filter_eq_nil_iff]
  intro decl _
  simp [h]

/-! ## The worklist -/

/-- The worklist has the finished structs of the selected declarations. -/
theorem worklist_eq_selected (h : load schema overrides style = .ok r) :
    r.worklist = (schema.selected overrides).map fun (space, decl) =>
      schema.finishedStruct overrides style (some space) decl := by
  have hspace : ∀ space : NamespaceDecl,
      (space.structs.map (schema.finishedStruct overrides style (some space))).filter
          (·.included) =
        (space.structs.filter fun decl =>
          decl.fields ≠ none ∧ overrides.Asks (space.qualify decl.name)).map
            (schema.finishedStruct overrides style (some space)) := by
    intro space
    rw [List.filter_map]
    congr 1
    apply List.filter_congr
    intro decl _
    rw [Bool.eq_iff_iff, Function.comp_apply, schema.included_finishedStruct_iff,
      decide_eq_true_iff]
    exact and_iff_right ⟨space, rfl⟩
  rw [worklist_eq_filter h, List.filter_flatMap]
  simp only [hspace, Schema.selected, List.map_flatMap, List.map_map, Function.comp_def]

theorem map_qualifiedName_worklist (h : load schema overrides style = .ok r) :
    r.worklist.map StructType.qualifiedName = schema.selectedKeys overrides := by
  rw [worklist_eq_selected h, List.map_map, Schema.selectedKeys]
  exact List.map_congr_left fun _ _ => schema.qualifiedName_finishedStruct _ _

/-- The finished struct of every declaration is known under its name. -/
theorem get?_struct_of_load (h : load schema overrides style = .ok r)
    {space : Option NamespaceDecl} {decl : StructDecl}
    (hd : .struct space decl ∈ schema.declarations) :
    r.get? (Declaration.struct space decl).key =
      some (.struct (schema.finishedStruct overrides style space decl)) :=
  (get?_of_load h).2 ⟨_, hd, rfl, rfl⟩

theorem mem_worklist_of_load_iff (h : load schema overrides style = .ok r)
    {space : Option NamespaceDecl} {decl : StructDecl}
    (hd : .struct space decl ∈ schema.declarations) :
    schema.finishedStruct overrides style space decl ∈ r.worklist ↔
      (∃ home, space = some home) ∧ decl.fields ≠ none ∧
        overrides.Asks (Declaration.struct space decl).key := by
  have hmem : schema.finishedStruct overrides style space decl ∈ r.structs :=
    Registry.mem_structs_iff.2 ⟨_, Table.get?_eq_some_iff.1 (get?_struct_of_load h hd)⟩
  rw [Registry.worklist, List.mem_filter, and_iff_right hmem]
  exact schema.included_finishedStruct_iff

namespace Projection

/-- Nothing is emitted without structs on the worklist. -/
theorem generate_of_worklist_nil (h : r.worklist = []) (config : Config) :
    generate r config = .ok .empty := by
  rw [generate_eq, h]
  rfl

/-- The worklist of a loaded registry has the selected structs, each as it is known under
its name, in the order of the document and each of them once.  Every declared struct,
selected or not, is known under its name with the same fields: those that its parent lists
and its own, whatever overrides and style it is loaded with.  If no override asks for a
struct, generation succeeds with both texts empty. -/
theorem worklist_verdict {schema : Schema} {overrides : Overrides} {style : NameStyle}
    {r : Registry} (h : load schema overrides style = .ok r) :
    List.Forall₂ (fun (space, decl) s => s.qualifiedName = space.qualify decl.name ∧
        r.get? (space.qualify decl.name) = some (.struct s))
      (schema.selected overrides) r.worklist ∧
    (r.worklist.map StructType.qualifiedName).Nodup ∧
    (∀ space decl, .struct space decl ∈ schema.declarations →
      ∃ s, r.resolve (Declaration.struct space decl).key = .ok (.struct s) ∧
        s.fields = schema.allFields decl ∧
        (s ∈ r.worklist ↔ (∃ home, space = some home) ∧ decl.fields ≠ none ∧
          overrides.Asks (Declaration.struct space decl).key) ∧
        ∀ overrides' style' r', load schema overrides' style' = .ok r' →
          ∃ s', r'.resolve (Declaration.struct space decl).key = .ok (.struct s') ∧
            s'.fields = s.fields) ∧
    ((∀ key, ¬ overrides.Asks key) → ∀ config, ∃ output, generate r config = .ok output ∧
      output.idl.text = "" ∧ output.native.text = "") := by
  refine ⟨?_, ?_, fun space decl hd => ?_, fun hnone config => ?_⟩
  · rw [worklist_eq_selected h, List.forall₂_map_right_iff, List.forall₂_same]
    rintro ⟨space, decl⟩ hx
    have hd : .struct (some space) decl ∈ schema.declarations := by
      obtain ⟨home, hhome, hdecl⟩ := List.mem_flatMap.1 hx
      obtain ⟨decl', hdecl', heq⟩ := List.mem_map.1 hdecl
      obtain ⟨rfl, rfl⟩ := Prod.mk.inj heq
      exact struct_mem_declarations_iff.2 (.inr ⟨home, hhome, (List.mem_filter.1 hdecl').1, rfl⟩)
    exact ⟨schema.qualifiedName_finishedStruct _ _, get?_struct_of_load h hd⟩
  · exact (nodup_keys_of_load h).sublist (worklist_names_sublist h)
  · have hresolve : ∀ {overrides' : Overrides} {style' : NameStyle} {r' : Registry},
        load schema overrides' style' = .ok r' →
          r'.resolve (Declaration.struct space decl).key =
            .ok (.struct (schema.finishedStruct overrides' style' space decl)) := by
      intro overrides' style' r' h'
      rw [Registry.resolve, get?_struct_of_load h' hd]
    exact ⟨_, hresolve h, rfl, mem_worklist_of_load_iff h hd,
      fun overrides' style' r' h' => ⟨_, hresolve h', rfl⟩⟩
  · have hnil : r.worklist = [] := by
      rw [worklist_eq_selected h, schema.selected_eq_nil hnone, List.map_nil]
    exact ⟨.empty, generate_of_worklist_nil hnil config, rfl, rfl⟩

/-- Figures: a shape in front of the anchor that it extends, a frame that holds both, a mark
without fields, and a blob without a field list; a point stands outside the namespace. -/
def figureSchema : Schema where
  primitives := ["FLOAT"]
  structs := [⟨"POINT", none, some [⟨"x", "FLOAT"⟩]⟩]
  namespaces := [{
    name := "Geo", apiName := "Geo"
    structs := [⟨"SHAPE", some "Geo::ANCHOR", some [⟨"brush", "Geo::IBrush"⟩]⟩,
      ⟨"ANCHOR", none, some [⟨"at", "POINT"⟩]⟩,
      ⟨"FRAME", none, some [⟨"shape", "Geo::SHAPE"⟩, ⟨"anchor", "Geo::ANCHOR"⟩]⟩,
      ⟨"MARK", none, some []⟩, ⟨"BLOB", none, none⟩]
    interfaces := ["IBrush"], enums := ["CAP"] }]

/-- Overrides that ask for all figures, for the anchor only as given. -/
def figureOverrides (anchor : Bool) : Overrides where
  structs := {
    entries := [("Geo::SHAPE", ⟨some "0a1b", none, true, none⟩),
      ("Geo::ANCHOR", ⟨none, none, anchor, some "Geo."⟩), ("Geo::FRAME", ⟨none, none, true, none⟩),
      ("Geo::MARK", ⟨none, none, true, none⟩), ("Geo::BLOB", ⟨none, none, true, none⟩),
      ("POINT", ⟨none, some "Vector2", true, none⟩)]
    keys_nodup := by simp }
  types := .empty

theorem exists_generate_figures (anchor : Bool) :
    ∃ r output, load figureSchema (figureOverrides anchor) default = .ok r ∧
      generate r default = .ok output := by
  have hsome : ∀ anchor, ((load figureSchema (figureOverrides anchor) default).toOption.bind
      fun r => (generate r default).toOption).isSome := by
    decide +kernel
  obtain ⟨output, h⟩ := Option.isSome_iff_exists.1 (hsome anchor)
  obtain ⟨r, hr, houtput⟩ := Option.bind_eq_some_iff.1 h
  exact ⟨r, output, eq_ok_of_toOption hr, eq_ok_of_toOption houtput⟩

/-- Of the figures the shape, the frame and the mark are emitted; the anchor is known all the
same. -/
theorem worklist_verdict_figures :
    ∃ r, load figureSchema (figureOverrides false) default = .ok r ∧
      r.worklist.map StructType.qualifiedName = ["Geo::SHAPE", "Geo::FRAME", "Geo::MARK"] ∧
      ∃ anchor, r.resolve "Geo::ANCHOR" = .ok (.struct anchor) ∧ anchor ∉ r.worklist ∧
        anchor.fields.map StructField.name = ["at"] := by
  obtain ⟨r, -, h, -⟩ := exists_generate_figures false
  obtain ⟨hall, -, hstructs, -⟩ := worklist_verdict h
  refine ⟨r, h, ?_, ?_⟩
  · have hselected : figureSchema.selectedKeys (figureOverrides false) =
        ["Geo::SHAPE", "Geo::FRAME", "Geo::MARK"] := by
      decide
    rw [← hselected, Schema.selectedKeys, ← List.forall₂_eq_eq_eq, List.forall₂_map_left_iff,
      List.forall₂_map_right_iff]
    exact hall.flip.imp fun _ _ hs => hs.1
  · obtain ⟨anchor, hanchor, hfields, hmem, -⟩ := hstructs
      (some (figureSchema.namespaces[0])) ⟨"ANCHOR", none, some [⟨"at", "POINT"⟩]⟩ (by decide)
    refine ⟨anchor, hanchor, ?_, by rw [hfields]; decide⟩
    rw [hmem]
    rintro ⟨-, -, hasks⟩
    exact absurd hasks (by decide)

end Projection

end TypeProjection
