/-
  Proofs/Registry/Added.lean --- schemas of which one has a declaration more.

  A declaration is looked up under its name and nowhere else.  So a declaration that no
  struct extends can be put into a schema or taken out of it: the others are finished as
  before (`finished_eq`), every other name stands for the same type (`get?_eq`), and the
  worklist stays as it is unless the declaration itself is emitted (`worklist_eq`).
-/
import TypeProjection.Proofs.Registry.Rearranged

set_option autoImplicit false

namespace TypeProjection

/-! ## One member more -/

section Inserted

variable {α β : Type} {x : α} {xs ys : List α}

/-- The second list is the first one with a member put in somewhere. -/
def Inserted (x : α) (xs ys : List α) : Prop :=
  ∃ before after, xs = before ++ after ∧ ys = before ++ x :: after

namespace Inserted

theorem map (f : α → β) (h : Inserted x xs ys) : Inserted (f x) (xs.map f) (ys.map f) := by
  obtain ⟨before, after, rfl, rfl⟩ := h
  exact ⟨before.map f, after.map f, List.map_append, by rw [List.map_append, List.map_cons]⟩

theorem append_left (zs : List α) (h : Inserted x xs ys) : Inserted x (zs ++ xs) (zs ++ ys) := by
  obtain ⟨before, after, rfl, rfl⟩ := h
  exact ⟨zs ++ before, after, by rw [List.append_assoc], by rw [List.append_assoc]⟩

theorem append_right (h : Inserted x xs ys) (zs : List α) : Inserted x (xs ++ zs) (ys ++ zs) := by
  obtain ⟨before, after, rfl, rfl⟩ := h
  exact ⟨before, after ++ zs, by rw [List.append_assoc],
    by rw [List.append_assoc, List.cons_append]⟩

theorem perm (h : Inserted x xs ys) : ys.Perm (x :: xs) := by
  obtain ⟨before, after, rfl, rfl⟩ := h
  exact List.perm_middle

theorem mem_iff (h : Inserted x xs ys) {y : α} : y ∈ ys ↔ y = x ∨ y ∈ xs := by
  rw [h.perm.mem_iff, List.mem_cons]

/-- A member that a search passes by does not change what is found. -/
theorem find?_eq {p : α → Bool} (h : Inserted x xs ys) (hx : p x = false) :
    ys.find? p = xs.find? p := by
  obtain ⟨before, after, rfl, rfl⟩ := h
  rw [List.find?_append, List.find?_append, List.find?_cons_of_neg (by simp [hx])]

theorem filterMap_eq {f : α → Option β} (h : Inserted x xs ys) (hx : f x = none) :
    ys.filterMap f = xs.filterMap f := by
  obtain ⟨before, after, rfl, rfl⟩ := h
  rw [List.filterMap_append, List.filterMap_append, List.filterMap_cons_none hx]

end Inserted

end Inserted

/-! ## One declaration more -/

/-- A namespace with one declaration more, at any place among those of its kind. -/
inductive NamespaceDecl.Adds (space : NamespaceDecl) : Declaration → NamespaceDecl → Prop where
  /-- a struct is added -/
  | struct {decl : StructDecl} {structs : List StructDecl}
    (h : Inserted decl space.structs structs) :
    Adds space (.struct (some space.bare) decl) { space with structs }
  /-- an interface is added -/
  | interface {name : String} {interfaces : List String}
    (h : Inserted name space.interfaces interfaces) :
    Adds space (.interface space.bare name) { space with interfaces }
  /-- an enum is added -/
  | enumeration {name : String} {enums : List String} (h : Inserted name space.enums enums) :
    Adds space (.enumeration space.bare name) { space with enums }

/-- A schema with one declaration more, at any place among those of its kind. -/
inductive Schema.Adds (schema : Schema) : Declaration → Schema → Prop where
  /-- a primitive is added -/
  | primitive {name : String} {primitives : List String}
    (h : Inserted name schema.primitives primitives) :
    Adds schema (.primitive name) { schema with primitives }
  /-- a struct outside namespaces is added -/
  | global {decl : StructDecl} {structs : List StructDecl}
    (h : Inserted decl schema.structs structs) :
    Adds schema (.struct none decl) { schema with structs }
  /-- a type is added to a namespace -/
  | member {before after : List NamespaceDecl} {space space' : NamespaceDecl} {d : Declaration}
    (hspaces : schema.namespaces = before ++ space :: after) (h : space.Adds d space') :
    Adds schema d { schema with namespaces := before ++ space' :: after }
  /-- a namespace with a single type is added -/
  | space {name apiName : String} {space : NamespaceDecl} {namespaces : List NamespaceDecl}
    {d : Declaration} (hspaces : Inserted space schema.namespaces namespaces)
    (h : (NamespaceDecl.ofNames name apiName).Adds d space) :
    Adds schema d { schema with namespaces }

theorem NamespaceDecl.Adds.map_bare {space space' : NamespaceDecl} {d : Declaration}
    (h : space.Adds d space') : Inserted d (space.declarations.map Declaration.bare)
      (space'.declarations.map Declaration.bare) := by
  simp only [declarations, List.map_append, List.map_map]
  cases h with
  | struct h => exact ((h.map _).append_right _).append_right _
  | interface h => exact ((h.map _).append_left _).append_right _
  | enumeration h => exact (h.map _).append_left _

namespace Schema.Adds

variable {schema schema' : Schema} {overrides : Overrides} {style : NameStyle} {d : Declaration}
  {r r' : Registry}

theorem bareDeclarations (h : schema.Adds d schema') :
    Inserted d schema.bareDeclarations schema'.bareDeclarations := by
  simp only [Schema.bareDeclarations, Schema.declarations, List.map_append, List.map_map,
    List.map_flatMap]
  cases h with
  | primitive h => exact ((h.map _).append_right _).append_right _
  | global h => exact ((h.map _).append_left _).append_right _
  | member hspaces h =>
    rw [hspaces, List.flatMap_append, List.flatMap_append, List.flatMap_cons, List.flatMap_cons]
    exact ((h.map_bare.append_right _).append_left _).append_left _
  | space hspaces h =>
    obtain ⟨before, after, hold, rfl⟩ := hspaces
    rw [hold, List.flatMap_append, List.flatMap_append, List.flatMap_cons]
    exact ((h.map_bare.append_right _).append_left _).append_left _

/-! ## Loading -/

/-- What is declared stays declared. -/
theorem declaresRoot (h : schema.Adds d schema') {key : String} {root : StructDecl}
    (hroot : schema.DeclaresRoot key root) : schema'.DeclaresRoot key root := by
  obtain ⟨d', hd', hrest⟩ := Schema.declaresRoot_iff_bare.1 hroot
  exact Schema.declaresRoot_iff_bare.2 ⟨d', h.bareDeclarations.mem_iff.2 (.inr hd'), hrest⟩

/-- What is declared under another name was declared before. -/
theorem declaresRoot_of_ne (h : schema.Adds d schema') {key : String} {root : StructDecl}
    (hkey : key ≠ d.key) (hroot : schema'.DeclaresRoot key root) :
    schema.DeclaresRoot key root := by
  obtain ⟨d', hd', rfl, hrest⟩ := Schema.declaresRoot_iff_bare.1 hroot
  rcases h.bareDeclarations.mem_iff.1 hd' with rfl | hd'
  · exact absurd rfl hkey
  · exact Schema.declaresRoot_iff_bare.2 ⟨d', hd', rfl, hrest⟩

/-- A declaration that no struct extends is not needed to load the others. -/
theorem exists_load_of_load (h : schema.Adds d schema')
    (hr' : load schema' overrides style = .ok r')
    (hparent : ∀ s ∈ r'.structs, s.parent ≠ some d.key) :
    ∃ r, load schema overrides style = .ok r := by
  obtain ⟨hkeys, hall⟩ := exists_load_iff_bare.1 ⟨r', hr'⟩
  rw [(h.bareDeclarations.map Declaration.key).perm.nodup_iff, List.nodup_cons] at hkeys
  refine exists_load_iff_bare.2 ⟨hkeys.2, fun d' hd' space decl parent heq hdecl => ?_⟩
  have hmem : d' ∈ schema'.bareDeclarations := h.bareDeclarations.mem_iff.2 (.inr hd')
  obtain ⟨root, hroot⟩ := hall d' hmem space decl parent heq hdecl
  have hne := hparent _ ((mem_structs_of_load_bare hr').2 ⟨space, decl, heq ▸ hmem, rfl⟩)
  exact ⟨root, h.declaresRoot_of_ne (fun hkey => hne (hkey ▸ hdecl)) hroot⟩

/-- A declaration with a new name whose parent is declared can be loaded with the
others. -/
theorem exists_load_of_fresh (h : schema.Adds d schema')
    (hr : load schema overrides style = .ok r) (hfresh : d.key ∉ schema.keys)
    (hdeclared : schema.ParentDeclared d) : ∃ r', load schema' overrides style = .ok r' := by
  obtain ⟨hkeys, hall⟩ := exists_load_iff_bare.1 ⟨r, hr⟩
  refine exists_load_iff_bare.2 ⟨?_, fun d' hd' space decl parent heq hdecl => ?_⟩
  · rw [(h.bareDeclarations.map Declaration.key).perm.nodup_iff, List.nodup_cons]
    exact ⟨by rwa [schema.map_key_bareDeclarations], hkeys⟩
  · have hparent : schema.ParentDeclared d' := by
      rcases h.bareDeclarations.mem_iff.1 hd' with rfl | hd'
      · exact hdeclared
      · exact hall d' hd'
    obtain ⟨root, hroot⟩ := hparent space decl parent heq hdecl
    exact ⟨root, h.declaresRoot hroot⟩

/-- No struct extends a declaration with a new name. -/
theorem parent_ne_of_fresh (h : schema.Adds d schema')
    (hr : load schema overrides style = .ok r) (hr' : load schema' overrides style = .ok r')
    (hfresh : d.key ∉ schema.keys) (hdeclared : schema.ParentDeclared d) :
    ∀ s ∈ r'.structs, s.parent ≠ some d.key := by
  intro s hs hparent
  obtain ⟨space, decl, hd', rfl⟩ := (mem_structs_of_load_bare hr').1 hs
  have hroot : ∃ root, schema.DeclaresRoot d.key root := by
    rcases h.bareDeclarations.mem_iff.1 hd' with hd' | hd'
    · exact hdeclared space decl d.key hd'.symm hparent
    · exact (exists_load_iff_bare.1 ⟨r, hr⟩).2 _ hd' space decl d.key rfl hparent
  obtain ⟨root, space', hmem, hkey, -⟩ := hroot
  rw [← schema.map_key_declarations] at hfresh
  exact hfresh (hkey ▸ List.mem_map_of_mem hmem)

/-! ## Types -/

section Loaded

variable (h : schema.Adds d schema') (hr : load schema overrides style = .ok r)
  (hr' : load schema' overrides style = .ok r')
  (hparent : ∀ s ∈ r'.structs, s.parent ≠ some d.key)

include h hr' hparent

/-- A struct inherits the same fields with the declaration as without it. -/
theorem finished_eq {d' : Declaration} (hd' : d' ∈ schema'.bareDeclarations) :
    schema'.finished overrides style d' = schema.finished overrides style d' := by
  cases d' with
  | primitive | interface | enumeration => rfl
  | struct space decl =>
    have hne : decl.parent ≠ some d.key :=
      hparent _ ((mem_structs_of_load_bare hr').2 ⟨space, decl, hd', rfl⟩)
    have hinherited : schema'.inheritedFields decl = schema.inheritedFields decl := by
      rw [schema'.inheritedFields_eq_bare, schema.inheritedFields_eq_bare,
        h.bareDeclarations.find?_eq (decide_eq_false hne)]
    simp only [Schema.finished, Schema.finishedStruct, Schema.allFields, hinherited]

include hr

/-- Every other name stands for the same type. -/
theorem get?_eq {key : String} (hkey : key ≠ d.key) : r'.get? key = r.get? key := by
  refine Option.ext fun type => ?_
  rw [get?_of_load_bare hr', get?_of_load_bare hr]
  constructor
  · rintro ⟨d', hd', rfl, rfl⟩
    have hfinished := h.finished_eq hr' hparent hd'
    rcases h.bareDeclarations.mem_iff.1 hd' with rfl | hd'
    · exact absurd rfl hkey
    · exact ⟨d', hd', rfl, hfinished.symm⟩
  · rintro ⟨d', hd', rfl, rfl⟩
    have hmem : d' ∈ schema'.bareDeclarations := h.bareDeclarations.mem_iff.2 (.inr hd')
    exact ⟨d', hmem, rfl, h.finished_eq hr' hparent hmem⟩

/-- Unless the declaration is emitted, the worklist is the same. -/
theorem worklist_eq (hemitted : ∀ s ∈ r'.worklist, s.qualifiedName ≠ d.key) :
    r'.worklist = r.worklist := by
  have hnone : schema'.emitted? overrides style d = none := by
    rw [Option.eq_none_iff_forall_ne_some]
    intro s hs
    refine hemitted s ?_ (Schema.qualifiedName_of_emitted? hs)
    rw [worklist_of_load_bare hr', List.mem_filterMap]
    exact ⟨d, h.bareDeclarations.mem_iff.2 (.inl rfl), hs⟩
  rw [worklist_of_load_bare hr, worklist_of_load_bare hr', h.bareDeclarations.filterMap_eq hnone]
  refine List.filterMap_congr fun d' hd' => ?_
  rw [Schema.emitted?, Schema.emitted?,
    h.finished_eq hr' hparent (h.bareDeclarations.mem_iff.2 (.inr hd'))]

end Loaded

end Schema.Adds

end TypeProjection
