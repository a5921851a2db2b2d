/-
  Proofs/Registry/Rearranged.lean --- schemas with the same declarations in another order.

  A declaration knows nothing of its namespace but the names.  So the declarations of a
  schema may be permuted, and a namespace may be split into several of the same names:
  the same schemas are loaded, every name stands for the same type (`get?_eq`), and the
  worklist is permuted like the structs of namespaces (`worklist_perm`).
-/
import Mathlib.Data.List.Perm.Basic
import Mathlib.Logic.Relation
import TypeProjection.Proofs.Registry.Finished

set_option autoImplicit false

namespace TypeProjection

variable {schema schema' : Schema} {overrides : Overrides} {style : NameStyle}
  {r r' : Registry}

/-! ## Declarations without their neighbours -/

/-- The namespace without its declarations. -/
def NamespaceDecl.bare (space : NamespaceDecl) : NamespaceDecl :=
  .ofNames space.name space.apiName

/-- The declaration without those around it in its namespace. -/
def Declaration.bare : Declaration → Declaration
  | .primitive name => .primitive name
  | .struct space content => .struct (space.map NamespaceDecl.bare) content
  | .interface space name => .interface space.bare name
  | .enumeration space name => .enumeration space.bare name

@[simp] theorem Declaration.key_bare (d : Declaration) : d.bare.key = d.key := by
  cases d with
  | struct space decl => cases space <;> rfl
  | primitive | interface | enumeration => rfl

@[simp] theorem Declaration.listedFields_bare (d : Declaration) :
    d.bare.listedFields = d.listedFields := by
  cases d <;> rfl

theorem Schema.finishedStruct_bare (space : Option NamespaceDecl) (decl : StructDecl) :
    schema.finishedStruct overrides style (space.map NamespaceDecl.bare) decl =
      schema.finishedStruct overrides style space decl := by
  cases space <;> rfl

theorem Schema.finished_bare (d : Declaration) :
    schema.finished overrides style d.bare = schema.finished overrides style d := by
  cases d with
  | struct space decl => exact congrArg ProjectedType.struct (finishedStruct_bare space decl)
  | primitive | interface | enumeration => rfl

theorem Schema.parentDeclared_struct_iff {space : Option NamespaceDecl} {decl : StructDecl} :
    schema.ParentDeclared (.struct space decl) ↔
      ∀ parent, decl.parent = some parent → ∃ root, schema.DeclaresRoot parent root := by
  constructor
  · exact fun h parent hparent => h space decl parent rfl hparent
  · intro h space' decl' parent heq hparent
    obtain ⟨-, rfl⟩ := Declaration.struct.inj heq
    exact h parent hparent

theorem Schema.parentDeclared_bare_iff {d : Declaration} :
    schema.ParentDeclared d.bare ↔ schema.ParentDeclared d := by
  cases d with
  | struct space decl => rw [Declaration.bare, parentDeclared_struct_iff, parentDeclared_struct_iff]
  | primitive | interface | enumeration => simp [ParentDeclared, Declaration.bare]

/-- The declarations of a schema, each without those around it. -/
def Schema.bareDeclarations (schema : Schema) : List Declaration :=
  schema.declarations.map Declaration.bare

theorem Schema.map_key_bareDeclarations (schema : Schema) :
    schema.bareDeclarations.map Declaration.key = schema.keys := by
  rw [bareDeclarations, List.map_map, ← schema.map_key_declarations]
  exact List.map_congr_left fun d _ => d.key_bare

theorem Schema.declaresRoot_iff_bare {key : String} {root : StructDecl} :
    schema.DeclaresRoot key root ↔
      ∃ d ∈ schema.bareDeclarations, d.key = key ∧ (∃ space, d = .struct space root) ∧
        root.parent = none := by
  constructor
  · rintro ⟨space, hmem, hkey, hparent⟩
    refine ⟨_, List.mem_map_of_mem hmem, ?_, ⟨_, rfl⟩, hparent⟩
    rw [Declaration.key_bare, hkey]
  · rintro ⟨-, hmem, hkey, ⟨space, rfl⟩, hparent⟩
    obtain ⟨d, hd, hbare⟩ := List.mem_map.1 hmem
    rw [← hbare, Declaration.key_bare] at hkey
    cases d with
    | struct space' decl =>
      obtain ⟨-, rfl⟩ := Declaration.struct.inj hbare
      exact ⟨space', hd, hkey, hparent⟩
    | primitive | interface | enumeration => cases hbare

theorem Schema.inheritedFields_eq_bare (decl : StructDecl) :
    schema.inheritedFields decl =
      (schema.bareDeclarations.find? fun d => decl.parent = some d.key).elim []
        Declaration.listedFields := by
  rw [bareDeclarations, List.find?_map, inheritedFields]
  simp only [Function.comp_def, Declaration.key_bare]
  cases schema.declarations.find? fun d => decl.parent = some d.key with
  | none => rfl
  | some d => exact d.listedFields_bare.symm

theorem exists_load_iff_bare :
    (∃ r, load schema overrides style = .ok r) ↔
      (schema.bareDeclarations.map Declaration.key).Nodup ∧
        ∀ d ∈ schema.bareDeclarations, schema.ParentDeclared d := by
  rw [exists_load_iff, schema.map_key_bareDeclarations, Schema.bareDeclarations]
  simp only [List.forall_mem_map, Schema.parentDeclared_bare_iff]

theorem get?_of_load_bare (h : load schema overrides style = .ok r) {key : String}
    {type : ProjectedType} :
    r.get? key = some type ↔
      ∃ d ∈ schema.bareDeclarations, d.key = key ∧ schema.finished overrides style d = type := by
  simp only [get?_of_load h, Schema.bareDeclarations, List.mem_map, exists_exists_and_eq_and,
    Declaration.key_bare, Schema.finished_bare]

theorem worklist_of_load_bare (h : load schema overrides style = .ok r) :
    r.worklist = schema.bareDeclarations.filterMap (schema.emitted? overrides style) := by
  rw [worklist_of_load h, Schema.bareDeclarations, List.filterMap_map]
  refine List.filterMap_congr fun d _ => ?_
  simp only [Function.comp_def, Schema.emitted?, Schema.finished_bare]

/-- The structs of a loaded registry are the finished structs of the declarations. -/
theorem mem_structs_of_load_bare (h : load schema overrides style = .ok r) {s : StructType} :
    s ∈ r.structs ↔ ∃ space decl, .struct space decl ∈ schema.bareDeclarations ∧
      schema.finishedStruct overrides style space decl = s := by
  simp only [Registry.mem_structs_iff, ← Table.get?_eq_some_iff]
  constructor
  · rintro ⟨key, hget⟩
    obtain ⟨d, hd, -, hfinished⟩ := (get?_of_load_bare h).1 hget
    cases d with
    | struct space decl => exact ⟨space, decl, hd, ProjectedType.struct.inj hfinished⟩
    | primitive | interface | enumeration => cases hfinished
  · rintro ⟨space, decl, hd, rfl⟩
    exact ⟨_, (get?_of_load_bare h).2 ⟨_, hd, rfl, rfl⟩⟩

/-! ## The same declarations -/

/-- The members of namespaces of one sort, each with its bare namespace, in their order. -/
def Schema.spaced {α : Type} (schema : Schema) (members : NamespaceDecl → List α) :
    List (NamespaceDecl × α) :=
  schema.namespaces.flatMap fun space => (members space).map (space.bare, ·)

/-- Two schemas declare the same, apart from the order. -/
structure Schema.SameUpToOrder (schema schema' : Schema) : Prop where
  /-- They have the same primitives. -/
  primitives : schema.primitives.Perm schema'.primitives
  /-- They have the same structs outside namespaces. -/
  globals : schema.structs.Perm schema'.structs
  /-- They have the same structs in namespaces of the same names. -/
  structs : (schema.spaced NamespaceDecl.structs).Perm (schema'.spaced NamespaceDecl.structs)
  /-- They have the same interfaces. -/
  interfaces :
    (schema.spaced NamespaceDecl.interfaces).Perm (schema'.spaced NamespaceDecl.interfaces)
  /-- They have the same enums. -/
  enums : (schema.spaced NamespaceDecl.enums).Perm (schema'.spaced NamespaceDecl.enums)

/-- The declarations of a schema, sorted by what they declare. -/
theorem Schema.bareDeclarations_perm (schema : Schema) :
    schema.bareDeclarations.Perm
      (schema.primitives.map .primitive ++ schema.structs.map (.struct none) ++
        ((schema.spaced NamespaceDecl.structs).map (fun x => .struct (some x.1) x.2) ++
          (schema.spaced NamespaceDecl.interfaces).map (fun x => .interface x.1 x.2) ++
          (schema.spaced NamespaceDecl.enums).map fun x => .enumeration x.1 x.2)) := by
  have hspace : ∀ space : NamespaceDecl, space.declarations.map Declaration.bare =
      (space.structs.map fun decl => .struct (some space.bare) decl) ++
        (space.interfaces.map fun name => .interface space.bare name) ++
        space.enums.map fun name => .enumeration space.bare name := by
    intro space
    simp only [NamespaceDecl.declarations, List.map_append, List.map_map]
    rfl
  have hglobals : (schema.primitives.map Declaration.primitive ++
      schema.structs.map (Declaration.struct none)).map Declaration.bare =
        schema.primitives.map Declaration.primitive ++
          schema.structs.map (Declaration.struct none) := by
    rw [List.map_append, List.map_map, List.map_map]
    rfl
  rw [bareDeclarations, declarations, List.map_append, hglobals, List.map_flatMap]
  simp only [hspace, spaced, List.map_flatMap, List.map_map, Function.comp_def]
  -- what stands together in one namespace is sorted across all of them
  refine .append_left _ (.symm ?_)
  exact ((List.flatMap_append_perm _ _ _).append_right _).trans (List.flatMap_append_perm _ _ _)

namespace Schema.SameUpToOrder

theorem refl (schema : Schema) : schema.SameUpToOrder schema :=
  ⟨.refl _, .refl _, .refl _, .refl _, .refl _⟩

theorem symm (h : schema.SameUpToOrder schema') : schema'.SameUpToOrder schema :=
  ⟨h.primitives.symm, h.globals.symm, h.structs.symm, h.interfaces.symm, h.enums.symm⟩

theorem trans {schema'' : Schema} (h : schema.SameUpToOrder schema')
    (h' : schema'.SameUpToOrder schema'') : schema.SameUpToOrder schema'' :=
  ⟨h.primitives.trans h'.primitives, h.globals.trans h'.globals, h.structs.trans h'.structs,
    h.interfaces.trans h'.interfaces, h.enums.trans h'.enums⟩

theorem declarations_perm (h : schema.SameUpToOrder schema') :
    schema.bareDeclarations.Perm schema'.bareDeclarations := by
  refine schema.bareDeclarations_perm.trans (.trans ?_ schema'.bareDeclarations_perm.symm)
  refine .append (.append (h.primitives.map _) (h.globals.map _)) ?_
  exact .append (.append (h.structs.map _) (h.interfaces.map _)) (h.enums.map _)

/-! ## Loading -/

theorem parentDeclared (h : schema.SameUpToOrder schema') {d : Declaration}
    (hd : schema.ParentDeclared d) : schema'.ParentDeclared d := by
  intro space decl parent heq hparent
  obtain ⟨root, hroot⟩ := hd space decl parent heq hparent
  obtain ⟨d', hd', hrest⟩ := Schema.declaresRoot_iff_bare.1 hroot
  exact ⟨root, Schema.declaresRoot_iff_bare.2 ⟨d', h.declarations_perm.mem_iff.1 hd', hrest⟩⟩

/-- The order of the declarations does not decide whether a schema is loaded. -/
theorem exists_load_iff (h : schema.SameUpToOrder schema') (overrides : Overrides)
    (style : NameStyle) :
    (∃ r, load schema overrides style = .ok r) ↔ ∃ r, load schema' overrides style = .ok r := by
  have hone : ∀ {schema schema' : Schema}, schema.SameUpToOrder schema' →
      (∃ r, load schema overrides style = .ok r) →
        ∃ r, load schema' overrides style = .ok r := by
    intro schema schema' h hload
    obtain ⟨hkeys, hall⟩ := exists_load_iff_bare.1 hload
    exact exists_load_iff_bare.2 ⟨(h.declarations_perm.map _).nodup_iff.1 hkeys,
      fun d hd => h.parentDeclared (hall d (h.declarations_perm.mem_iff.2 hd))⟩
  exact ⟨hone h, hone h.symm⟩

/-! ## Types -/

/-- A struct inherits the same fields, wherever its parent stands. -/
theorem inheritedFields_eq (h : schema.SameUpToOrder schema') (hkeys : schema.keys.Nodup)
    (decl : StructDecl) : schema'.inheritedFields decl = schema.inheritedFields decl := by
  rw [schema.inheritedFields_eq_bare, schema'.inheritedFields_eq_bare]
  refine congrArg (Option.elim · [] Declaration.listedFields) ?_
  -- no two declarations have the name of the parent
  refine find?_eq_of_perm h.declarations_perm.symm fun d hd d' hd' hparent hparent' => ?_
  rw [← schema.map_key_bareDeclarations] at hkeys
  refine List.inj_on_of_nodup_map hkeys (h.declarations_perm.mem_iff.2 hd)
    (h.declarations_perm.mem_iff.2 hd') (Option.some.inj ?_)
  exact (of_decide_eq_true hparent).symm.trans (of_decide_eq_true hparent')

theorem finishedStruct_eq (h : schema.SameUpToOrder schema') (hkeys : schema.keys.Nodup) :
    schema'.finishedStruct overrides style = schema.finishedStruct overrides style := by
  funext space decl
  simp only [Schema.finishedStruct, Schema.allFields, h.inheritedFields_eq hkeys]

theorem finished_eq (h : schema.SameUpToOrder schema') (hkeys : schema.keys.Nodup) :
    schema'.finished overrides style = schema.finished overrides style := by
  funext d
  cases d with
  | struct space decl => simp only [Schema.finished, h.finishedStruct_eq hkeys]
  | primitive | interface | enumeration => rfl

/-- Every name stands for the same type. -/
theorem get?_eq (h : schema.SameUpToOrder schema') (hr : load schema overrides style = .ok r)
    (hr' : load schema' overrides style = .ok r') (key : String) : r'.get? key = r.get? key := by
  refine Option.ext fun type => ?_
  rw [get?_of_load_bare hr', get?_of_load_bare hr, h.finished_eq (nodup_keys_of_load hr)]
  simp only [h.declarations_perm.mem_iff]

/-- The worklist has the same structs. -/
theorem worklist_perm (h : schema.SameUpToOrder schema')
    (hr : load schema overrides style = .ok r) (hr' : load schema' overrides style = .ok r') :
    r'.worklist.Perm r.worklist := by
  have hemitted : schema'.emitted? overrides style = schema.emitted? overrides style := by
    funext d
    rw [Schema.emitted?, Schema.emitted?, h.finished_eq (nodup_keys_of_load hr)]
  rw [worklist_of_load_bare hr, worklist_of_load_bare hr', hemitted]
  exact h.declarations_perm.symm.filterMap _

/-- It has them in the same order if the structs of namespaces keep theirs. -/
theorem worklist_eq (h : schema.SameUpToOrder schema')
    (hstructs : schema'.spaced NamespaceDecl.structs = schema.spaced NamespaceDecl.structs)
    (hr : load schema overrides style = .ok r) (hr' : load schema' overrides style = .ok r') :
    r'.worklist = r.worklist := by
  have hspaced : ∀ {schema : Schema} {r : Registry}, load schema overrides style = .ok r →
      r.worklist = ((schema.spaced NamespaceDecl.structs).map fun (space, decl) =>
        schema.finishedStruct overrides style (some space) decl).filter (·.included) := by
    intro schema r hr
    rw [worklist_eq_filter hr, Schema.spaced, List.map_flatMap]
    simp only [List.map_map, Function.comp_def]
    rfl
  rw [hspaced hr, hspaced hr', hstructs, h.finishedStruct_eq (nodup_keys_of_load hr)]

end Schema.SameUpToOrder

/-! ## Changes of the order -/

/-- One change of a schema that keeps the order of the structs of namespaces. -/
inductive Schema.Regroups : Schema → Schema → Prop where
  /-- the primitives are permuted -/
  | primitives {schema : Schema} {primitives : List String}
    (h : primitives.Perm schema.primitives) : Regroups schema { schema with primitives }
  /-- the structs outside namespaces are permuted -/
  | globals {schema : Schema} {structs : List StructDecl} (h : structs.Perm schema.structs) :
    Regroups schema { schema with structs }
  /-- the interfaces and the enums of a namespace are permuted -/
  | members {primitives : List String} {structs : List StructDecl}
    (before after : List NamespaceDecl) {space : NamespaceDecl} {interfaces enums : List String}
    (hinterfaces : interfaces.Perm space.interfaces) (henums : enums.Perm space.enums) :
    Regroups ⟨primitives, structs, before ++ space :: after⟩
      ⟨primitives, structs, before ++ { space with interfaces, enums } :: after⟩
  /-- a namespace is split into several with its names -/
  | split {primitives : List String} {structs : List StructDecl}
    (before parts after : List NamespaceDecl) {space : NamespaceDecl}
    (hnames : ∀ part ∈ parts, part.name = space.name ∧ part.apiName = space.apiName)
    (hstructs : parts.flatMap NamespaceDecl.structs = space.structs)
    (hinterfaces : parts.flatMap NamespaceDecl.interfaces = space.interfaces)
    (henums : parts.flatMap NamespaceDecl.enums = space.enums) :
    Regroups ⟨primitives, structs, before ++ space :: after⟩
      ⟨primitives, structs, before ++ parts ++ after⟩

/-- One change of the order in which a schema declares its types. -/
inductive Schema.Rearranges : Schema → Schema → Prop where
  /-- the structs of namespaces keep their order -/
  | regroups {schema schema' : Schema} (h : Regroups schema schema') : Rearranges schema schema'
  /-- the namespaces are permuted -/
  | namespaces {schema : Schema} {namespaces : List NamespaceDecl}
    (h : namespaces.Perm schema.namespaces) : Rearranges schema { schema with namespaces }
  /-- the structs of a namespace are permuted -/
  | structs {primitives : List String} {structs : List StructDecl}
    (before after : List NamespaceDecl) {space : NamespaceDecl} {structs' : List StructDecl}
    (h : structs'.Perm space.structs) :
    Rearranges ⟨primitives, structs, before ++ space :: after⟩
      ⟨primitives, structs, before ++ { space with structs := structs' } :: after⟩

section

variable {α : Type} {members : NamespaceDecl → List α} {primitives : List String}
  {structs : List StructDecl} {before parts after : List NamespaceDecl}
  {space space' : NamespaceDecl}

/-- The members of a namespace stand between those of the namespaces around it. -/
theorem Schema.spaced_middle :
    Schema.spaced ⟨primitives, structs, before ++ space :: after⟩ members =
      Schema.spaced ⟨primitives, structs, before⟩ members ++
        ((members space).map (space.bare, ·) ++
          Schema.spaced ⟨primitives, structs, after⟩ members) := by
  simp only [spaced, List.flatMap_append, List.flatMap_cons]

theorem Schema.spaced_middle_perm (hbare : space'.bare = space.bare)
    (h : (members space').Perm (members space)) :
    (Schema.spaced ⟨primitives, structs, before ++ space :: after⟩ members).Perm
      (Schema.spaced ⟨primitives, structs, before ++ space' :: after⟩ members) := by
  rw [spaced_middle, spaced_middle, hbare]
  exact .append_left _ (.append_right _ (h.symm.map _))

theorem Schema.spaced_parts
    (hnames : ∀ part ∈ parts, part.name = space.name ∧ part.apiName = space.apiName)
    (h : parts.flatMap members = members space) :
    Schema.spaced ⟨primitives, structs, before ++ parts ++ after⟩ members =
      Schema.spaced ⟨primitives, structs, before ++ space :: after⟩ members := by
  have hparts : (parts.flatMap fun part => (members part).map (part.bare, ·)) =
      (members space).map (space.bare, ·) := by
    rw [← h, List.map_flatMap]
    refine List.flatMap_congr fun part hpart => ?_
    obtain ⟨hname, hapi⟩ := hnames part hpart
    rw [NamespaceDecl.bare, NamespaceDecl.bare, hname, hapi]
  rw [spaced_middle, spaced, List.flatMap_append, List.flatMap_append, hparts, List.append_assoc]
  rfl

end

theorem Schema.Regroups.spaced_structs (h : Schema.Regroups schema schema') :
    schema'.spaced NamespaceDecl.structs = schema.spaced NamespaceDecl.structs := by
  cases h with
  | primitives | globals => rfl
  | members =>
    rw [spaced_middle, spaced_middle]
    rfl
  | split _ _ _ hnames hstructs => exact spaced_parts hnames hstructs

theorem Schema.Regroups.sameUpToOrder (h : Schema.Regroups schema schema') :
    schema.SameUpToOrder schema' where
  primitives := by
    cases h with
    | primitives h => exact h.symm
    | globals | members | split => exact .refl _
  globals := by
    cases h with
    | globals h => exact h.symm
    | primitives | members | split => exact .refl _
  structs := .of_eq h.spaced_structs.symm
  interfaces := by
    cases h with
    | primitives | globals => exact .refl _
    | members _ _ hinterfaces => exact spaced_middle_perm rfl hinterfaces
    | split _ _ _ hnames _ hinterfaces => exact .of_eq (spaced_parts hnames hinterfaces).symm
  enums := by
    cases h with
    | primitives | globals => exact .refl _
    | members _ _ _ henums => exact spaced_middle_perm rfl henums
    | split _ _ _ hnames _ _ henums => exact .of_eq (spaced_parts hnames henums).symm

theorem Schema.Rearranges.sameUpToOrder (h : Schema.Rearranges schema schema') :
    schema.SameUpToOrder schema' := by
  cases h with
  | regroups h => exact h.sameUpToOrder
  | namespaces h =>
    exact ⟨.refl _, .refl _, h.symm.flatMap_right _, h.symm.flatMap_right _,
      h.symm.flatMap_right _⟩
  | structs _ _ h =>
    exact ⟨.refl _, .refl _, spaced_middle_perm rfl h, spaced_middle_perm rfl (.refl _),
      spaced_middle_perm rfl (.refl _)⟩

/-- Any number of changes of the order, made or taken back, leave the declarations the
same. -/
theorem Schema.sameUpToOrder_of_rearranged
    (h : Relation.EqvGen Schema.Rearranges schema schema') : schema.SameUpToOrder schema' := by
  induction h with
  | rel _ _ h => exact h.sameUpToOrder
  | refl schema => exact .refl schema
  | symm _ _ _ ih => exact ih.symm
  | trans _ _ _ _ _ ih ih' => exact ih.trans ih'

theorem Schema.spaced_structs_of_regrouped
    (h : Relation.EqvGen Schema.Regroups schema schema') :
    schema'.spaced NamespaceDecl.structs = schema.spaced NamespaceDecl.structs := by
  induction h with
  | rel _ _ h => exact h.spaced_structs
  | refl => rfl
  | symm _ _ _ ih => exact ih.symm
  | trans _ _ _ _ _ ih ih' => exact ih'.trans ih

end TypeProjection
