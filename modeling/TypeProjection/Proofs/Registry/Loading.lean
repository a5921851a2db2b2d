/-
  Proofs/Registry/Loading.lean --- from declarations to the finished registry.

  Loading goes through the declarations twice: names are compared while the
  types are registered, parents are looked up when all of them are there.  So a
  repeated name is reported before any parent, and a schema is loaded exactly if
  its names are distinct and its parents are declared structs without parents
  (`load_verdict`).
-/
import TypeProjection.Proofs.Registry.Building
import TypeProjection.Proofs.Registry.Naming
import TypeProjection.Proofs.Registry.Registration

set_option autoImplicit false

namespace TypeProjection

variable {schema : Schema} {overrides : Overrides} {style : NameStyle}

/-! ## Registration -/

/-- What a declaration is registered as. -/
def Declaration.entry (overrides : Overrides) (style : NameStyle) (d : Declaration) :
    String × ProjectedType :=
  (d.key, d.describe overrides style)

theorem result_registerAll_cons (d : Declaration) (ds : List Declaration)
    (b : Registry.Builder) :
    (registerAll overrides style (d :: ds) b).result =
      match b.register d.key (d.describe overrides style) with
      | .error e => .error e
      | .ok next => (registerAll overrides style ds next).result := by
  simp only [registerAll]
  cases b.register d.key (d.describe overrides style) <;> rfl

/-- Declarations are all registered exactly if their names are new and pairwise
distinct; then they stand behind what was registered before. -/
theorem registerAll_eq_ok_iff {ds : List Declaration} {b b' : Registry.Builder} :
    (registerAll overrides style ds b).result = .ok b' ↔
      (b.types.keys ++ ds.map Declaration.key).Nodup ∧
        b'.types.entries = b.types.entries ++ ds.map (Declaration.entry overrides style) := by
  induction ds generalizing b with
  | nil =>
    obtain ⟨⟨entries, hnodup⟩⟩ := b
    obtain ⟨⟨entries', hnodup'⟩⟩ := b'
    simp only [registerAll, Except.ok.injEq, Registry.Builder.mk.injEq, Table.mk.injEq,
      List.map_nil, List.append_nil, eq_comm]
    exact (and_iff_right hnodup).symm
  | cons d ds ih =>
    rw [result_registerAll_cons]
    cases h : b.register d.key (d.describe overrides style) with
    | error e =>
      obtain ⟨htaken, -⟩ := Registry.Builder.register_eq_error_iff.1 h
      simp only [reduceCtorEq, List.map_cons, false_iff, not_and]
      intro hnodup
      exact absurd (List.nodup_append.1 hnodup |>.2.2 _ htaken _ List.mem_cons_self rfl) id
    | ok next =>
      obtain ⟨-, hentries⟩ := Registry.Builder.register_eq_ok_iff.1 h
      have hkeys := Registry.Builder.keys_of_register h
      simp only [ih, hkeys, hentries, List.append_assoc,
        List.singleton_append, List.map_cons]
      rfl

/-- The first declaration whose name one in front of it has. -/
def FirstRepeated (ds : List Declaration) (d : Declaration) : Prop :=
  ∃ before after, ds = before ++ d :: after ∧ (before.map Declaration.key).Nodup ∧
    d.key ∈ before.map Declaration.key

/-- Registration fails at the first declaration whose name is taken. -/
theorem registerAll_eq_error_iff {ds : List Declaration} {b : Registry.Builder}
    {e : SchemaError} :
    (registerAll overrides style ds b).result = .error e ↔
      ∃ before d after, ds = before ++ d :: after ∧
        (b.types.keys ++ before.map Declaration.key).Nodup ∧
        d.key ∈ b.types.keys ++ before.map Declaration.key ∧ e = .duplicateType d.key := by
  induction ds generalizing b with
  | nil => simp [registerAll]
  | cons d ds ih =>
    rw [result_registerAll_cons]
    cases h : b.register d.key (d.describe overrides style) with
    | error e' =>
      obtain ⟨htaken, rfl⟩ := Registry.Builder.register_eq_error_iff.1 h
      constructor
      · intro he
        refine ⟨[], d, ds, rfl, ?_, ?_, (Except.error.inj he).symm⟩
        · rw [List.map_nil, List.append_nil]
          exact b.types.keys_nodup
        · simpa using htaken
      · intro hex
        obtain ⟨before, d', after, heq, hnodup, -, rfl⟩ := hex
        cases before with
        | nil =>
          obtain ⟨rfl, -⟩ := List.cons.inj heq
          rfl
        | cons d'' before =>
          obtain ⟨rfl, -⟩ := List.cons.inj heq
          exact absurd rfl (List.nodup_append.1 hnodup |>.2.2 _ htaken _ List.mem_cons_self)
    | ok next =>
      obtain ⟨hnew, hentries⟩ := Registry.Builder.register_eq_ok_iff.1 h
      have hkeys := Registry.Builder.keys_of_register h
      simp only [ih, hkeys, List.append_assoc, List.singleton_append]
      constructor
      · intro hex
        obtain ⟨before, d', after, rfl, hnodup, hmem, rfl⟩ := hex
        exact ⟨d :: before, d', after, rfl, hnodup, hmem, rfl⟩
      · intro hex
        obtain ⟨before, d', after, heq, hnodup, hmem, rfl⟩ := hex
        cases before with
        | nil =>
          obtain ⟨rfl, -⟩ := List.cons.inj heq
          simp [hnew] at hmem
        | cons d'' before =>
          obtain ⟨rfl, rfl⟩ := List.cons.inj heq
          exact ⟨before, d', after, rfl, hnodup, hmem, rfl⟩

/-! ## Parents -/

/-- A struct without a parent is declared under a qualified name. -/
def Schema.DeclaresRoot (schema : Schema) (key : String) (root : StructDecl) : Prop :=
  ∃ space, .struct space root ∈ schema.declarations ∧
    (Declaration.struct space root).key = key ∧ root.parent = none

/-- A declaration whose parent, if it has one, is a declared struct without a
parent. -/
def Schema.ParentDeclared (schema : Schema) (d : Declaration) : Prop :=
  ∀ space decl parent, d = .struct space decl → decl.parent = some parent →
    ∃ root, schema.DeclaresRoot parent root

/-- Why the declared parent of a struct with a qualified name cannot be used. -/
inductive Schema.DeclaredParentFault (schema : Schema) (key : String) (decl : StructDecl) :
    SchemaError → Prop where
  /-- no type of this name is declared -/
  | unknown {parent : String} (h : decl.parent = some parent) (hkeys : parent ∉ schema.keys) :
    DeclaredParentFault schema key decl (.typeNotFound parent)
  /-- the type of this name is no struct -/
  | noStruct {parent : String} {d : Declaration} (h : decl.parent = some parent)
    (hmem : d ∈ schema.declarations) (hkey : d.key = parent)
    (hd : ∀ space other, d ≠ .struct space other) :
    DeclaredParentFault schema key decl (.invalidParent key parent)
  /-- the struct of this name has a parent -/
  | grandparent {parent grandparent : String} {space : Option NamespaceDecl}
    {other : StructDecl} (h : decl.parent = some parent)
    (hmem : .struct space other ∈ schema.declarations)
    (hkey : (Declaration.struct space other).key = parent)
    (hother : other.parent = some grandparent) :
    DeclaredParentFault schema key decl (.multiLevelInheritance key parent grandparent)

/-- The descriptor of a declared type: the naming rules, applied to the
declaration and the override under its own qualified name. -/
inductive Schema.Describes (schema : Schema) (overrides : Overrides) (style : NameStyle) :
    Declaration → ProjectedType → Prop where
  /-- a primitive keeps its name unless it is renamed -/
  | primitive {name : String} {names : NamedType}
    (h : NamesFollow (overrides.type? name) name name names) :
    Describes schema overrides style (.primitive name) (.primitive names)
  /-- an interface keeps its name unless it is renamed -/
  | interface {space : NamespaceDecl} {name : String} {names : NamedType}
    (h : NamesFollow (overrides.type? (space.name ++ "::" ++ name))
      (space.apiName ++ "_" ++ name) name names) :
    Describes schema overrides style (.interface space name) (.interface names)
  /-- the name of an enum is derived and gets the lead unless it is renamed -/
  | enumeration {space : NamespaceDecl} {name : String} {names : NamedType}
    (h : NamesFollow (overrides.type? (space.name ++ "::" ++ name))
      (space.apiName ++ "_" ++ name) (style.lead ++ typeNameOf name) names) :
    Describes schema overrides style (.enumeration space name) (.enumeration names)
  /-- a struct without a parent has its own fields -/
  | root {space : Option NamespaceDecl} {decl : StructDecl} {s : StructType}
    (hparent : decl.parent = none)
    (h : StructFollows style (overrides.struct? (Declaration.struct space decl).key)
      space decl [] s) :
    Describes schema overrides style (.struct space decl) (.struct s)
  /-- a struct with a parent has the fields of the parent in front of its own -/
  | child {space : Option NamespaceDecl} {decl root : StructDecl} {parent : String}
    {s : StructType} (hparent : decl.parent = some parent)
    (hroot : schema.DeclaresRoot parent root)
    (h : StructFollows style (overrides.struct? (Declaration.struct space decl).key)
      space decl root.declaredFields s) :
    Describes schema overrides style (.struct space decl) (.struct s)

/-- The registry under construction holds the declarations of a schema. -/
def Registry.Builder.Holds (b : Registry.Builder) (overrides : Overrides) (style : NameStyle)
    (schema : Schema) : Prop :=
  b.types.entries = schema.declarations.map (Declaration.entry overrides style)

namespace Registry.Builder.Holds

variable {b : Registry.Builder}

theorem keys_eq (h : b.Holds overrides style schema) : b.types.keys = schema.keys := by
  unfold Table.keys
  rw [h, List.map_map, ← schema.map_key_declarations]
  rfl

theorem get?_eq_some_iff (h : b.Holds overrides style schema) {key : String}
    {type : ProjectedType} :
    (Registry.mk b.types).get? key = some type ↔
      ∃ d ∈ schema.declarations, d.key = key ∧ d.describe overrides style = type := by
  unfold Registry.get?
  rw [Table.get?_eq_some_iff, h, List.mem_map]
  simp only [Declaration.entry, Prod.mk.injEq]

theorem get?_eq_none_iff (h : b.Holds overrides style schema) {key : String} :
    (Registry.mk b.types).get? key = none ↔ key ∉ schema.keys := by
  unfold Registry.get?
  rw [Table.get?_eq_none_iff, h.keys_eq]

end Registry.Builder.Holds

/-! ## Descriptors -/

/-- Only structs have descriptors of structs. -/
theorem Declaration.describe_eq_struct_iff {d : Declaration} {s : StructType} :
    d.describe overrides style = .struct s ↔
      ∃ space decl, d = .struct space decl ∧
        describeStruct space decl (overrides.struct? d.key) style = s := by
  cases d <;> simp [describe]

theorem Declaration.struct?_describe_eq_none_iff {d : Declaration} :
    (d.describe overrides style).struct? = none ↔ ∀ space decl, d ≠ .struct space decl := by
  cases d <;> simp [describe, ProjectedType.struct?]

/-- A parent can be used among the registered types exactly if it is declared as a
struct without a parent. -/
theorem exists_root_iff {b : Registry.Builder} (hb : b.Holds overrides style schema)
    {parent : String} {fields : List StructField} :
    (∃ ancestor, (Registry.mk b.types).get? parent = some (.struct ancestor) ∧
        ancestor.parent = none ∧ ancestor.declaredFields = fields) ↔
      ∃ root, schema.DeclaresRoot parent root ∧
        root.declaredFields.map StructField.ofDecl = fields := by
  simp only [hb.get?_eq_some_iff, Declaration.describe_eq_struct_iff, Schema.DeclaresRoot]
  constructor
  · intro hex
    obtain ⟨ancestor, ⟨d, hd, hkey, space, decl, rfl, rfl⟩, hparent, hfields⟩ := hex
    exact ⟨decl, ⟨space, hd, hkey, hparent⟩, hfields⟩
  · intro hex
    obtain ⟨root, ⟨space, hmem, hkey, hparent⟩, hfields⟩ := hex
    exact ⟨_, ⟨_, hmem, hkey, space, root, rfl, rfl⟩, hparent, hfields⟩

theorem hasUsableParent_iff {b : Registry.Builder} (hb : b.Holds overrides style schema)
    {d : Declaration} :
    (∀ s, d.describe overrides style = .struct s → (Registry.mk b.types).HasUsableParent s) ↔
      schema.ParentDeclared d := by
  have hroot : ∀ parent, (∃ ancestor, (Registry.mk b.types).get? parent =
      some (.struct ancestor) ∧ ancestor.parent = none) ↔
        ∃ root, schema.DeclaresRoot parent root := by
    intro parent
    constructor
    · intro hex
      obtain ⟨ancestor, hget, hancestor⟩ := hex
      obtain ⟨root, hroot, -⟩ := (exists_root_iff hb).1 ⟨ancestor, hget, hancestor, rfl⟩
      exact ⟨root, hroot⟩
    · intro hex
      obtain ⟨root, hroot⟩ := hex
      obtain ⟨ancestor, hget, hancestor, -⟩ := (exists_root_iff hb).2 ⟨root, hroot, rfl⟩
      exact ⟨ancestor, hget, hancestor⟩
  simp only [Declaration.describe_eq_struct_iff, Registry.HasUsableParent, hroot]
  constructor
  · rintro h space decl parent rfl hparent
    exact h _ ⟨space, decl, rfl, rfl⟩ parent hparent
  · rintro h s ⟨space, decl, rfl, rfl⟩ parent hparent
    exact h space decl parent rfl hparent

theorem parentFault_iff {b : Registry.Builder} (hb : b.Holds overrides style schema)
    {space : Option NamespaceDecl} {decl : StructDecl} {e : SchemaError} :
    (Registry.mk b.types).ParentFault (describeStruct space decl
        (overrides.struct? (Declaration.struct space decl).key) style) e ↔
      schema.DeclaredParentFault (Declaration.struct space decl).key decl e := by
  have hname : (describeStruct space decl
      (overrides.struct? (Declaration.struct space decl).key) style).qualifiedName =
        (Declaration.struct space decl).key := by
    cases space <;> rfl
  constructor
  · intro h
    rcases h with ⟨hp, hget⟩ | ⟨hp, hget, htype⟩ | ⟨hp, hget, hancestor⟩
    · exact .unknown hp (hb.get?_eq_none_iff.1 hget)
    · obtain ⟨d, hd, hkey, rfl⟩ := hb.get?_eq_some_iff.1 hget
      rw [hname]
      exact .noStruct hp hd hkey (Declaration.struct?_describe_eq_none_iff.1 htype)
    · obtain ⟨d, hd, hkey, hdescribe⟩ := hb.get?_eq_some_iff.1 hget
      obtain ⟨space', other, rfl, rfl⟩ := Declaration.describe_eq_struct_iff.1 hdescribe
      rw [hname]
      exact .grandparent hp hd hkey hancestor
  · intro h
    rcases h with ⟨hp, hkeys⟩ | ⟨hp, hd, hkey, hother⟩ | ⟨hp, hd, hkey, hother⟩
    · exact .unknown hp (hb.get?_eq_none_iff.2 hkeys)
    · rw [← hname]
      exact .noStruct hp (hb.get?_eq_some_iff.2 ⟨_, hd, hkey, rfl⟩)
        (Declaration.struct?_describe_eq_none_iff.2 hother)
    · rw [← hname]
      exact .grandparent hp (hb.get?_eq_some_iff.2 ⟨_, hd, hkey, rfl⟩) hother

/-- A type that was registered for a declaration and finished is described by the
naming rules. -/
theorem describes_of_inherits {b : Registry.Builder} (hb : b.Holds overrides style schema)
    {d : Declaration} {type : ProjectedType}
    (h : (Registry.mk b.types).Inherits (d.describe overrides style) type) :
    schema.Describes overrides style d type := by
  cases d with
  | primitive name =>
    cases h
    exact .primitive ⟨rfl, rfl, rfl⟩
  | interface space name =>
    cases h
    exact .interface ⟨rfl, rfl, rfl⟩
  | enumeration space name =>
    cases h
    exact .enumeration ⟨rfl, rfl, rfl⟩
  | struct space decl =>
    cases h with
    | child hparent hget hancestor =>
      obtain ⟨root, hroot, hfields⟩ := (exists_root_iff hb).1 ⟨_, hget, hancestor, rfl⟩
      have hfollows := structFollows_describeStruct style
        (overrides.struct? (Declaration.struct space decl).key) space decl root.declaredFields
      rw [List.map_append, hfields] at hfollows
      exact .child hparent hroot hfollows
    | root hparent => exact .root hparent (structFollows_describeStruct style _ space decl [])
    | other h => exact absurd rfl (Declaration.struct?_describe_eq_none_iff.1 h space decl)

/-! ## Loading -/

/-- Loading registers all declarations and then finishes the registry. -/
theorem load_eq :
    load schema overrides style =
      match (registerAll overrides style schema.declarations .empty).result with
      | .error e => .error e
      | .ok b => b.build := by
  simp only [load, loadJournaled]
  cases (registerAll overrides style schema.declarations .empty).result with
  | error e => rfl
  | ok b => cases h : b.build <;> simp only [h]

/-- With distinct names all declarations are registered. -/
theorem exists_holds_of_nodup (overrides : Overrides) (style : NameStyle)
    (h : schema.keys.Nodup) :
    ∃ b : Registry.Builder, b.Holds overrides style schema ∧
      load schema overrides style = b.build := by
  have hkeys : ((schema.declarations.map (Declaration.entry overrides style)).map
      Prod.fst).Nodup := by
    rw [List.map_map]
    rw [← schema.map_key_declarations] at h
    exact h
  have hregister : (registerAll overrides style schema.declarations .empty).result =
      .ok ⟨⟨_, hkeys⟩⟩ := by
    refine registerAll_eq_ok_iff.2 ⟨?_, rfl⟩
    rw [schema.map_key_declarations]
    exact h
  refine ⟨⟨⟨_, hkeys⟩⟩, rfl, ?_⟩
  rw [load_eq, hregister]

/-- The first declaration that repeats a name is reported. -/
theorem load_of_firstRepeated (overrides : Overrides) (style : NameStyle) {d : Declaration}
    (h : FirstRepeated schema.declarations d) :
    load schema overrides style = .error (.duplicateType d.key) := by
  obtain ⟨before, after, heq, hnodup, hmem⟩ := h
  have hregister : (registerAll overrides style schema.declarations .empty).result =
      .error (.duplicateType d.key) :=
    registerAll_eq_error_iff.2 ⟨before, d, after, heq, hnodup, hmem, rfl⟩
  rw [load_eq, hregister]

theorem exists_firstRepeated_of_not_nodup (overrides : Overrides) (style : NameStyle)
    (h : ¬ schema.keys.Nodup) :
    ∃ d, FirstRepeated schema.declarations d := by
  cases hregister : (registerAll overrides style schema.declarations .empty).result with
  | ok b =>
    obtain ⟨hnodup, -⟩ := registerAll_eq_ok_iff.1 hregister
    rw [schema.map_key_declarations] at hnodup
    exact absurd hnodup h
  | error e =>
    obtain ⟨before, d, after, heq, hnodup, hmem, -⟩ := registerAll_eq_error_iff.1 hregister
    exact ⟨d, before, after, heq, hnodup, hmem⟩

theorem not_nodup_of_firstRepeated {d : Declaration}
    (h : FirstRepeated schema.declarations d) : ¬ schema.keys.Nodup := by
  obtain ⟨before, after, heq, -, hmem⟩ := h
  rw [← schema.map_key_declarations, heq, List.map_append, List.map_cons]
  intro hnodup
  exact (List.nodup_append.1 hnodup).2.2 _ hmem _ List.mem_cons_self rfl

/-- The registry of a schema whose names are distinct. -/
theorem exists_load_iff_of_holds {b : Registry.Builder} (hb : b.Holds overrides style schema) :
    (∃ r, b.build = .ok r) ↔ ∀ d ∈ schema.declarations, schema.ParentDeclared d := by
  rw [Registry.Builder.exists_build_iff, hb]
  simp only [List.forall_mem_map, Declaration.entry, hasUsableParent_iff hb]

theorem build_error_iff_of_holds {b : Registry.Builder} (hb : b.Holds overrides style schema)
    {e : SchemaError} :
    b.build = .error e ↔
      ∃ space decl, IsFirst (fun d => ¬ schema.ParentDeclared d) schema.declarations
          (.struct space decl) ∧
        schema.DeclaredParentFault (Declaration.struct space decl).key decl e := by
  rw [Registry.Builder.build_eq_error_iff, hb]
  simp only [isFirst_map_iff, Declaration.entry, hasUsableParent_iff hb]
  constructor
  · intro hex
    obtain ⟨-, ⟨d, hfirst, rfl⟩, s, hs, hfault⟩ := hex
    obtain ⟨space, decl, rfl, rfl⟩ := Declaration.describe_eq_struct_iff.1 hs
    exact ⟨space, decl, hfirst, (parentFault_iff hb).1 hfault⟩
  · intro hex
    obtain ⟨space, decl, hfirst, hfault⟩ := hex
    exact ⟨_, ⟨_, hfirst, rfl⟩, _, rfl, (parentFault_iff hb).2 hfault⟩

/-- The finished registry describes every declaration, in order. -/
theorem forall₂_describes_of_build {b : Registry.Builder}
    (hb : b.Holds overrides style schema) {r : Registry} (h : b.build = .ok r) :
    List.Forall₂ (fun d entry => entry.1 = d.key ∧ schema.Describes overrides style d entry.2)
      schema.declarations r.types.entries := by
  have hall := Registry.Builder.build_eq_ok_iff.1 h
  rw [hb, List.forall₂_map_left_iff] at hall
  exact hall.imp fun _ _ hd => ⟨hd.1, describes_of_inherits hb hd.2⟩

/-- Whatever is loaded describes every declaration, in order. -/
theorem forall₂_describes_of_load {r : Registry} (h : load schema overrides style = .ok r) :
    List.Forall₂ (fun d entry => entry.1 = d.key ∧ schema.Describes overrides style d entry.2)
      schema.declarations r.types.entries := by
  by_cases hnodup : schema.keys.Nodup
  · obtain ⟨b, hb, hload⟩ := exists_holds_of_nodup overrides style hnodup
    exact forall₂_describes_of_build hb (hload.symm.trans h)
  · obtain ⟨d, hd⟩ := exists_firstRepeated_of_not_nodup overrides style hnodup
    rw [load_of_firstRepeated overrides style hd] at h
    cases h

/-- A schema is loaded exactly if the qualified names of its declarations are
distinct and every struct with a parent extends a declared struct without one.
The registry then has one type for every declaration, in their order, each under
its qualified name and with the descriptor that the naming rules give it; no
other name stands for a type.  Otherwise the first declaration that repeats a
name is reported, or, if there is none, the first struct whose parent cannot be
used. -/
theorem load_verdict (schema : Schema) (overrides : Overrides) (style : NameStyle) :
    ((∃ r, load schema overrides style = .ok r) ↔
      schema.keys.Nodup ∧ ∀ d ∈ schema.declarations, schema.ParentDeclared d) ∧
    (∀ r, load schema overrides style = .ok r →
      r.size = schema.declarationCount ∧ r.types.keys = schema.keys ∧
      List.Forall₂ (fun d entry => entry.1 = d.key ∧ schema.Describes overrides style d entry.2)
        schema.declarations r.types.entries ∧
      (∀ d ∈ schema.declarations,
        ∃ type, r.get? d.key = some type ∧ schema.Describes overrides style d type) ∧
      ∀ key, (∃ type, r.get? key = some type) → key ∈ schema.keys) ∧
    ∀ e, load schema overrides style = .error e ↔
      (∃ d, FirstRepeated schema.declarations d ∧ e = .duplicateType d.key) ∨
      (schema.keys.Nodup ∧ ∃ space decl,
        IsFirst (fun d => ¬ schema.ParentDeclared d) schema.declarations (.struct space decl) ∧
          schema.DeclaredParentFault (Declaration.struct space decl).key decl e) := by
  by_cases hnodup : schema.keys.Nodup
  · obtain ⟨b, hb, hload⟩ := exists_holds_of_nodup overrides style hnodup
    rw [hload]
    refine ⟨?_, ?_, ?_⟩
    · rw [exists_load_iff_of_holds hb, and_iff_right hnodup]
    · intro r hr
      have hall := forall₂_describes_of_build hb hr
      have hkeys : r.types.keys = schema.keys :=
        (Registry.Builder.keys_of_build hr).trans hb.keys_eq
      refine ⟨?_, hkeys, hall, ?_, ?_⟩
      · unfold Registry.size Table.size
        rw [← hall.length_eq, schema.length_declarations]
      · intro d hd
        obtain ⟨⟨key, type⟩, hmem, rfl, hdescribes⟩ := exists_of_mem_of_forall₂ hall hd
        exact ⟨type, Table.get?_eq_some_iff.2 hmem, hdescribes⟩
      · rintro key ⟨type, hget⟩
        rw [← hkeys, ← Table.get?_isSome_iff]
        exact Option.isSome_iff_exists.2 ⟨type, hget⟩
    · intro e
      rw [build_error_iff_of_holds hb, and_iff_right hnodup, or_iff_right]
      intro hex
      obtain ⟨d, hd, -⟩ := hex
      exact not_nodup_of_firstRepeated hd hnodup
  · obtain ⟨d, hd⟩ := exists_firstRepeated_of_not_nodup overrides style hnodup
    have hload := load_of_firstRepeated overrides style hd
    refine ⟨?_, ?_, ?_⟩
    · simp [hload, hnodup]
    · intro r hr
      rw [hload] at hr
      contradiction
    · intro e
      constructor
      · intro he
        rw [hload] at he
        exact .inl ⟨d, hd, (Except.error.inj he).symm⟩
      · intro hor
        rcases hor with ⟨d', hd', rfl⟩ | ⟨h, -⟩
        · exact load_of_firstRepeated overrides style hd'
        · exact absurd h hnodup

end TypeProjection
