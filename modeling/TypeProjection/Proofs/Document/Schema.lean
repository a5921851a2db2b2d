/-
  Proofs/Document/Schema.lean --- the schema reader walks over its document.

  The types of a schema are declared by elements of its document: in some order, the
  qualified names of the types are those of the elements.  Every element that is read
  adds its own to them, so reading a schema that is accepted is a walk.
-/
import TypeProjection.Proofs.Document.Walk
import TypeProjection.Proofs.Override.Meaning
import TypeProjection.Proofs.Registry.Naming

set_option autoImplicit false

namespace TypeProjection

open Markup (Ending EndsBefore Event Tag endsBefore_iff)

/-! ## Names of elements -/

theorem requireAttribute_eq_ok_iff {tag : Tag} {element key value : String} :
    requireAttribute tag element key = .ok value ↔ tag.value? key = some value := by
  unfold requireAttribute
  cases tag.value? key <;> simp

/-- A name that is required is the key of its element. -/
theorem key?_of_requireAttribute {tag : Tag} {element name : String}
    (h : requireAttribute tag element "Name" = .ok name) (space : Option String) :
    (OverrideSite.mk space tag).key? = some (overrideKey space name) :=
  OverrideSite.key?_eq_some_iff.2 ⟨name, requireAttribute_eq_ok_iff.1 h, rfl⟩

/-- A struct has the name that its tag gives. -/
theorem key?_of_structOfTag {tag : Tag} {s : StructDecl} (h : structOfTag tag = .ok s)
    (space : Option String) :
    (OverrideSite.mk space tag).key? = some (overrideKey space s.name) := by
  unfold structOfTag at h
  cases hname : requireAttribute tag "Struct" "Name" with
  | error e =>
    rw [hname] at h
    cases h
  | ok name =>
    rw [hname] at h
    obtain rfl := Except.ok.inj h
    exact key?_of_requireAttribute hname space

/-- The names are those that the elements give, in some order. -/
def NamedBy (names : List String) (sites : List OverrideSite) : Prop :=
  (sites.map OverrideSite.key?).Perm (names.map some)

namespace NamedBy

variable {names more all : List String} {sites others : List OverrideSite}

theorem nil : NamedBy [] [] :=
  List.Perm.nil

theorem singleton {site : OverrideSite} {name : String} (h : site.key? = some name) :
    NamedBy [name] [site] := by
  unfold NamedBy
  rw [List.map_singleton, h]
  exact .refl _

/-- More elements give more names. -/
theorem append (h : NamedBy names sites) (hmore : NamedBy more others)
    (hall : (names ++ more).Perm all) : NamedBy all (sites ++ others) := by
  unfold NamedBy
  rw [List.map_append]
  refine (List.Perm.append h hmore).trans ?_
  rw [← List.map_append]
  exact hall.map some

theorem length_eq (h : NamedBy names sites) : names.length = sites.length := by
  simpa using (List.Perm.length_eq h).symm

end NamedBy

/-! ## Names of types -/

theorem perm_append_comm_of_append {α : Type} (xs ys zs : List α) :
    (xs ++ ys ++ zs).Perm (xs ++ zs ++ ys) := by
  rw [List.append_assoc, List.append_assoc]
  exact List.perm_append_comm.append_left xs

namespace NamespaceDecl

variable (space : NamespaceDecl)

theorem keys_addStruct (s : StructDecl) :
    (space.keys ++ [space.qualify s.name]).Perm (space.addStruct s).keys := by
  have hnames : (space.structs.map StructDecl.name ++ (space.interfaces ++ space.enums) ++
      [s.name]).Perm (space.structs.map StructDecl.name ++ [s.name] ++
        (space.interfaces ++ space.enums)) := perm_append_comm_of_append _ _ _
  simpa [keys, addStruct, NamespaceDecl.qualify, TypeProjection.qualify] using
    hnames.map fun name => space.name ++ "::" ++ name

theorem keys_addInterface (name : String) :
    (space.keys ++ [space.qualify name]).Perm (space.addInterface name).keys := by
  have hnames := (perm_append_comm_of_append space.interfaces space.enums [name]).append_left
    (space.structs.map StructDecl.name)
  simpa [keys, addInterface, NamespaceDecl.qualify, TypeProjection.qualify] using
    hnames.map fun name => space.name ++ "::" ++ name

theorem keys_addEnum (name : String) :
    (space.keys ++ [space.qualify name]).Perm (space.addEnum name).keys := by
  simp [keys, addEnum, NamespaceDecl.qualify, TypeProjection.qualify]

end NamespaceDecl

namespace Schema

variable (schema : Schema)

theorem keys_addPrimitive (name : String) :
    (schema.keys ++ [name]).Perm (schema.addPrimitive name).keys := by
  simpa [keys, addPrimitive] using perm_append_comm_of_append schema.primitives
    (schema.structs.map StructDecl.name ++ schema.namespaces.flatMap NamespaceDecl.keys) [name]

theorem keys_addStruct (s : StructDecl) :
    (schema.keys ++ [s.name]).Perm (schema.addStruct s).keys := by
  simpa [keys, addStruct] using perm_append_comm_of_append
    (schema.primitives ++ schema.structs.map StructDecl.name)
    (schema.namespaces.flatMap NamespaceDecl.keys) [s.name]

theorem keys_addNamespace (space : NamespaceDecl) :
    (schema.keys ++ space.keys).Perm (schema.addNamespace space).keys := by
  simp [keys, addNamespace]

/-- There is one name for every type that is counted. -/
theorem length_keys : schema.keys.length = schema.declarationCount := by
  have hspace (space : NamespaceDecl) : space.keys.length = space.declarationCount := by
    simp [NamespaceDecl.keys, NamespaceDecl.declarationCount, Nat.add_assoc]
  have hspaces (spaces : List NamespaceDecl) : (spaces.flatMap NamespaceDecl.keys).length =
      spaces.foldr (fun space total => space.declarationCount + total) 0 := by
    induction spaces with
    | nil => rfl
    | cons space spaces ih =>
      rw [List.flatMap_cons, List.length_append, ih, hspace, List.foldr_cons]
  rw [keys, List.length_append, List.length_append, hspaces, List.length_map, declarationCount]

end Schema

/-! ## Structs -/

theorem endsBefore_of_passOver {ending : Ending} {events rest : List Event}
    (h : passOver ending events = .ok rest) : EndsBefore events rest :=
  endsBefore_iff.2 (afterElement?_of_passOver h)

theorem name_of_addFieldOfTag {s s' : StructDecl} {tag : Tag}
    (h : addFieldOfTag s tag = .ok s') : s'.name = s.name := by
  unfold addFieldOfTag at h
  split at h
  · obtain ⟨field, -, rfl⟩ := map_eq_ok_iff.1 h
    rfl
  · rw [Except.ok.inj h]

/-- The fields of a struct are read to its end tag, and its name stays. -/
theorem endsBefore_of_readFields {ending : Ending} {s s' : StructDecl}
    {events rest : List Event} (h : readFields ending s events = .ok (s', rest)) :
    EndsBefore events rest ∧ s'.name = s.name := by
  fun_induction readFields ending s events with
  | case1 | case4 | case6 | case7 => cases h
  | case2 =>
    cases h
    exact ⟨.closed, rfl⟩
  | case3 s events ih => exact ⟨.aside (ih h).1, (ih h).2⟩
  | case5 _ _ _ _ hadd ih =>
    exact ⟨.childless (ih h).1, (ih h).2.trans (name_of_addFieldOfTag hadd)⟩
  | case8 _ _ _ _ hadd _ hpass ih =>
    exact ⟨.opened (endsBefore_of_passOver hpass) (ih h).1,
      (ih h).2.trans (name_of_addFieldOfTag hadd)⟩

/-- A struct is read to its end tag, and has the name that its start tag gives. -/
theorem endsBefore_of_readStruct {ending : Ending} {tag : Tag} {s : StructDecl}
    {events rest : List Event} (h : readStruct ending tag events = .ok (s, rest)) :
    EndsBefore events rest ∧ ∀ space,
      (OverrideSite.mk space tag).key? = some (overrideKey space s.name) := by
  unfold readStruct at h
  split at h
  · cases h
  · rename_i s' htag
    obtain ⟨hends, hname⟩ := endsBefore_of_readFields h
    exact ⟨hends, fun space => hname ▸ key?_of_structOfTag htag space⟩

/-! ## Namespaces -/

/-- A namespace has the types of another one of the same name, and those that some
elements declare. -/
structure NamespaceDecl.Gains (space : NamespaceDecl) (sites : List OverrideSite)
    (space' : NamespaceDecl) : Prop where
  /-- The name is the same. -/
  name : space'.name = space.name
  /-- The elements add their names to the others. -/
  keys : TypeProjection.Gains (fun space => NamedBy space.keys) space sites space'

namespace NamespaceDecl.Gains

variable {space space' space'' : NamespaceDecl} {sites others : List OverrideSite}

theorem refl (space : NamespaceDecl) : space.Gains [] space :=
  ⟨rfl, .refl space⟩

theorem trans (h : space.Gains sites space') (h' : space'.Gains others space'') :
    space.Gains (sites ++ others) space'' :=
  ⟨h'.name.trans h.name, h.keys.trans h'.keys⟩

/-- One more type is declared by an element with its name. -/
theorem of_key {site : OverrideSite} {name : String} (hname : space'.name = space.name)
    (hkey : site.key? = some name) (hkeys : (space.keys ++ [name]).Perm space'.keys) :
    space.Gains [site] space' :=
  ⟨hname, fun _ hkept => hkept.append (.singleton hkey) hkeys⟩

end NamespaceDecl.Gains

/-- The element of an interface or of an enum adds its name to a namespace, and no
other element but that of a struct adds anything. -/
theorem gains_of_addNamedType {space space' : NamespaceDecl} {tag : Tag}
    (h : addNamedType space tag = .ok space') (hstruct : tag.name ≠ "Struct") :
    space.Gains ((Place.space (some space.name)).sites tag) space' := by
  unfold addNamedType at h
  split at h
  · rename_i hname
    obtain ⟨name, hrequire, rfl⟩ := map_eq_ok_iff.1 h
    rw [Place.sites_space_of_mem (by simp [hname])]
    exact .of_key rfl (key?_of_requireAttribute hrequire _) (space.keys_addInterface name)
  · split at h
    · rename_i hname
      obtain ⟨name, hrequire, rfl⟩ := map_eq_ok_iff.1 h
      rw [Place.sites_space_of_mem (by simp [hname])]
      exact .of_key rfl (key?_of_requireAttribute hrequire _) (space.keys_addEnum name)
    · rename_i hinterface henum
      obtain rfl := Except.ok.inj h
      rw [Place.sites_space_of_notMem (by simp [hstruct, hinterface, henum])]
      exact .refl space

/-- The element of a struct adds its name to a namespace. -/
theorem gains_addStruct (space : NamespaceDecl) {tag : Tag} {s : StructDecl}
    (hstruct : tag.name = "Struct")
    (hkey : (OverrideSite.mk (some space.name) tag).key? =
      some (overrideKey (some space.name) s.name)) :
    space.Gains ((Place.space (some space.name)).sites tag) (space.addStruct s) := by
  rw [Place.sites_space_of_mem (by simp [hstruct])]
  exact .of_key rfl hkey (space.keys_addStruct s)

/-- An element without content adds its name to a namespace, if it declares a type. -/
theorem gains_of_addChildlessType {space space' : NamespaceDecl} {tag : Tag}
    (h : addChildlessType space tag = .ok space') :
    space.Gains ((Place.space (some space.name)).sites tag) space' := by
  unfold addChildlessType at h
  split at h
  · rename_i hstruct
    obtain ⟨s, htag, rfl⟩ := map_eq_ok_iff.1 h
    exact gains_addStruct space hstruct (key?_of_structOfTag htag _)
  · rename_i hstruct
    exact gains_of_addNamedType h hstruct

/-- The types of a namespace are read to its end tag from the elements inside it. -/
theorem encloses_of_readTypes {ending : Ending} {space space' : NamespaceDecl}
    {events rest : List Event} (h : readTypes ending space events = .ok (space', rest)) :
    ∃ sites, Encloses (.space (some space.name)) events sites rest ∧
      space.Gains sites space' := by
  fun_induction readTypes ending space events with
  | case1 | case4 | case6 | case8 | case9 => cases h
  | case2 =>
    cases h
    exact ⟨[], .closed, .refl _⟩
  | case3 space events ih =>
    obtain ⟨sites, hinside, hgains⟩ := ih h
    exact ⟨sites, .aside hinside, hgains⟩
  | case5 space tag events space' hadd ih =>
    obtain ⟨sites, hinside, hgains⟩ := ih h
    have hown := gains_of_addChildlessType hadd
    rw [hown.name] at hinside
    exact ⟨_, .childless hinside, hown.trans hgains⟩
  | case7 space tag events hstruct s behind hread ih =>
    obtain ⟨sites, hinside, hgains⟩ := ih h
    obtain ⟨hends, hkey⟩ := endsBefore_of_readStruct hread
    have hown := gains_addStruct space hstruct (hkey _)
    exact ⟨_, .opened rfl hends hinside, hown.trans hgains⟩
  | case10 space tag events hstruct space' hadd behind hpass ih =>
    obtain ⟨sites, hinside, hgains⟩ := ih h
    have hown := gains_of_addNamedType hadd hstruct
    rw [hown.name] at hinside
    exact ⟨_, .opened rfl (endsBefore_of_passOver hpass) hinside, hown.trans hgains⟩

/-- The tag of a namespace gives its name, and no type. -/
theorem keys_of_namespaceOfTag {tag : Tag} {space : NamespaceDecl}
    (h : namespaceOfTag tag = .ok space) :
    tag.value? "Name" = some space.name ∧ space.keys = [] := by
  obtain ⟨name, hname, hspace⟩ := bind_eq_ok_iff.1 h
  obtain rfl := Except.ok.inj hspace
  exact ⟨requireAttribute_eq_ok_iff.1 hname, rfl⟩

/-- A namespace is read to its end tag, and its types are those that the elements
inside it declare. -/
theorem encloses_of_readNamespace {ending : Ending} {tag : Tag} {space : NamespaceDecl}
    {events rest : List Event} (h : readNamespace ending tag events = .ok (space, rest)) :
    ∃ sites, Encloses (.space (tag.value? "Name")) events sites rest ∧
      NamedBy space.keys sites := by
  unfold readNamespace at h
  split at h
  · cases h
  · rename_i start htag
    obtain ⟨hname, hkeys⟩ := keys_of_namespaceOfTag htag
    obtain ⟨sites, hinside, hgains⟩ := encloses_of_readTypes h
    have hnone : NamedBy start.keys [] := hkeys ▸ .nil
    exact ⟨sites, hname ▸ hinside, hgains.keys [] hnone⟩

/-! ## Schemas -/

namespace Schema

/-- The types of a schema are those that the elements declare. -/
def DeclaredBy (schema : Schema) (sites : List OverrideSite) : Prop :=
  NamedBy schema.keys sites

theorem declaredBy_empty : empty.DeclaredBy [] :=
  NamedBy.nil

variable (schema : Schema) {sites : List OverrideSite}

theorem gains_addPrimitive {tag : Tag} {name : String} (hname : tag.name = "Primitive")
    (htag : primitiveOfTag tag = .ok name) :
    Gains DeclaredBy schema (Place.root.sites tag) (schema.addPrimitive name) := by
  rw [Place.sites_root_of_mem (by simp [hname])]
  exact fun _ h => h.append (.singleton (key?_of_requireAttribute htag none))
    (schema.keys_addPrimitive name)

theorem gains_addStruct {tag : Tag} {s : StructDecl} (hname : tag.name = "Struct")
    (hkey : (OverrideSite.mk none tag).key? = some s.name) :
    Gains DeclaredBy schema (Place.root.sites tag) (schema.addStruct s) := by
  rw [Place.sites_root_of_mem (by simp [hname])]
  exact fun _ h => h.append (.singleton hkey) (schema.keys_addStruct s)

theorem gains_addNamespace {tag : Tag} {space : NamespaceDecl} (hname : tag.name = "Namespace")
    (h : NamedBy space.keys sites) :
    Gains DeclaredBy schema (Place.root.sites tag ++ sites) (schema.addNamespace space) := by
  rw [Place.sites_root_of_notMem (by simp [hname])]
  exact fun _ hkept => hkept.append h (schema.keys_addNamespace space)

end Schema

theorem extend_eq_ok_iff {α : Type} {add : Schema → α → Schema} {state state' : Option Schema}
    {read : Except ReadError α} :
    extend add state read = .ok state' ↔
      ∃ schema declared, state = some schema ∧ read = .ok declared ∧
        state' = some (add schema declared) := by
  cases read with
  | error e => simp [extend, bind, Except.bind]
  | ok declared => cases state <;> simp [extend, requireSchema, bind, Except.bind, pure,
      Except.pure, eq_comm]

/-- An element without content, if it is no root, adds what it declares to a schema; in
front of all roots it declares nothing. -/
theorem gains_of_addChildless {state state' : Option Schema} {tag : Tag}
    (h : addChildless state tag = .ok state') (hname : tag.name ≠ "Settings") :
    (state = none ∧ state' = none ∧ tag.name ∉ ["Primitive", "Struct"]) ∨
      ∃ schema schema', state = some schema ∧ state' = some schema' ∧
        Gains Schema.DeclaredBy schema (Place.root.sites tag) schema' := by
  unfold addChildless at h
  rw [if_neg hname] at h
  split at h
  · rename_i hprimitive
    obtain ⟨schema, name, rfl, htag, rfl⟩ := extend_eq_ok_iff.1 h
    exact .inr ⟨_, _, rfl, rfl, schema.gains_addPrimitive hprimitive htag⟩
  split at h
  · rename_i hstruct
    obtain ⟨schema, s, rfl, htag, rfl⟩ := extend_eq_ok_iff.1 h
    exact .inr ⟨_, _, rfl, rfl, schema.gains_addStruct hstruct (key?_of_structOfTag htag none)⟩
  split at h
  · rename_i hspace
    obtain ⟨schema, space, rfl, htag, rfl⟩ := extend_eq_ok_iff.1 h
    have hnamed : NamedBy space.keys [] := (keys_of_namespaceOfTag htag).2 ▸ .nil
    have hgains := schema.gains_addNamespace hspace hnamed
    rw [List.append_nil] at hgains
    exact .inr ⟨_, _, rfl, rfl, hgains⟩
  · rename_i hprimitive hstruct hspace
    obtain rfl := Except.ok.inj h
    have hother : tag.name ∉ ["Primitive", "Struct"] := by simp [hprimitive, hstruct]
    cases state with
    | none => exact .inl ⟨rfl, rfl, hother⟩
    | some schema =>
      exact .inr ⟨_, _, rfl, rfl, Place.sites_root_of_notMem hother ▸ .refl schema⟩

/-- A schema that is accepted is read by a walk over a complete document. -/
theorem walk_of_readDeclarations {ending : Ending} {state : Option Schema}
    {events : List Event} {final : Schema}
    (h : readDeclarations ending state events = .ok final) :
    ending = .complete ∧ Walk "Settings" Schema.DeclaredBy state events final := by
  fun_induction readDeclarations ending state events with
  | case1 _ hcomplete =>
    cases h
    exact ⟨hcomplete, .done⟩
  | case2 | case5 | case8 | case9 | case11 | case12 | case14 | case15 | case18 => cases h
  | case3 _ _ ih => exact ⟨(ih h).1, .beside (.inl rfl) (ih h).2⟩
  | case4 _ _ ih => exact ⟨(ih h).1, .beside (.inr rfl) (ih h).2⟩
  | case6 state tag events state' hadd ih =>
    refine ⟨(ih h).1, ?_⟩
    by_cases hname : tag.name = "Settings"
    · rw [addChildless, if_pos hname] at hadd
      obtain rfl := Except.ok.inj hadd
      exact .root (.inr rfl) hname Schema.declaredBy_empty (ih h).2
    rcases gains_of_addChildless hadd hname with
      ⟨rfl, rfl, hother⟩ | ⟨schema, schema', rfl, rfl, hgains⟩
    · exact .outside hname (Place.sites_root_of_notMem hother) (ih h).2
    · exact .single hname hgains (ih h).2
  | case7 _ _ _ hname ih => exact ⟨(ih h).1, .root (.inl rfl) hname Schema.declaredBy_empty (ih h).2⟩
  | case10 state tag events hname hstruct s rest hread state' hextend ih =>
    obtain ⟨schema, _, rfl, hs, rfl⟩ := extend_eq_ok_iff.1 hextend
    obtain rfl := Except.ok.inj hs
    obtain ⟨hends, hkey⟩ := endsBefore_of_readStruct hread
    exact ⟨(ih h).1, .passed hname (by simp [hstruct]) hends
      (schema.gains_addStruct hstruct (hkey none)) (ih h).2⟩
  | case13 state tag events hname hstruct hspace space rest hread state' hextend ih =>
    obtain ⟨schema, _, rfl, hs, rfl⟩ := extend_eq_ok_iff.1 hextend
    obtain rfl := Except.ok.inj hs
    obtain ⟨sites, hinside, hnamed⟩ := encloses_of_readNamespace hread
    rw [← Place.inside_root_of_space hspace] at hinside
    exact ⟨(ih h).1, .pair hname hinside (schema.gains_addNamespace hspace hnamed) (ih h).2⟩
  | case16 state tag events hname hstruct hspace hprimitive state' hextend rest hpass ih =>
    obtain ⟨schema, name, rfl, htag, rfl⟩ := extend_eq_ok_iff.1 hextend
    exact ⟨(ih h).1, .passed hname hspace (endsBefore_of_passOver hpass)
      (schema.gains_addPrimitive hprimitive htag) (ih h).2⟩
  | case17 state tag events hname hstruct hspace hprimitive hnone ih =>
    obtain rfl := Option.isNone_iff_eq_none.1 hnone
    exact ⟨(ih h).1, .entered (by simp [hname, hstruct, hspace, hprimitive]) (ih h).2⟩
  | case19 state tag events hname hstruct hspace hprimitive hsome rest hpass ih =>
    obtain ⟨schema, rfl⟩ := Option.ne_none_iff_exists'.1 (mt Option.isNone_iff_eq_none.2 hsome)
    have hsites : Place.root.sites tag = [] :=
      Place.sites_root_of_notMem (by simp [hprimitive, hstruct])
    exact ⟨(ih h).1, .passed hname hspace (endsBefore_of_passOver hpass)
      (hsites ▸ .refl schema) (ih h).2⟩

end TypeProjection
