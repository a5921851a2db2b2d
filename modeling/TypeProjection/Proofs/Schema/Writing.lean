/-
  Proofs/Schema/Writing.lean --- reading what a schema is written as.

  Here a schema is turned into an element tree, with its names put into attributes in
  whatever form values are to have.  The tree declares the schema with its names in that
  form (`declaresSchema_element`), and names are not decoded when they are read: a schema
  that is written with its names escaped is read with escaped names
  (`readSchema_escaped`).
-/
import TypeProjection.Proofs.Markup.Writing
import TypeProjection.Proofs.Schema.Meaning

set_option autoImplicit false

namespace TypeProjection

open Markup (Element Tag escape IsEscaped allQuotable_iff)

/-! ## Names -/

section Names

variable (f : String → String)

/-- The field with each of its names changed. -/
def FieldDecl.mapNames (field : FieldDecl) : FieldDecl :=
  ⟨f field.name, f field.typeName⟩

/-- The struct with each of its names changed. -/
def StructDecl.mapNames (s : StructDecl) : StructDecl :=
  ⟨f s.name, s.parent.map f, s.fields.map (List.map (FieldDecl.mapNames f))⟩

/-- The namespace with each of its names changed. -/
def NamespaceDecl.mapNames (space : NamespaceDecl) : NamespaceDecl :=
  ⟨f space.name, f space.apiName, space.structs.map (StructDecl.mapNames f),
    space.interfaces.map f, space.enums.map f⟩

/-- The schema with each of its names changed. -/
def Schema.mapNames (schema : Schema) : Schema :=
  ⟨schema.primitives.map f, schema.structs.map (StructDecl.mapNames f),
    schema.namespaces.map (NamespaceDecl.mapNames f)⟩

end Names

/-- The names in a field. -/
def FieldDecl.names (field : FieldDecl) : List String :=
  [field.name, field.typeName]

/-- The names in a struct. -/
def StructDecl.names (s : StructDecl) : List String :=
  s.name :: s.parent.toList ++ s.declaredFields.flatMap FieldDecl.names

/-- The names in a namespace. -/
def NamespaceDecl.names (space : NamespaceDecl) : List String :=
  space.name :: space.apiName :: space.structs.flatMap StructDecl.names ++ space.interfaces ++
    space.enums

/-- The names in a schema. -/
def Schema.names (schema : Schema) : List String :=
  schema.primitives ++ schema.structs.flatMap StructDecl.names ++
    schema.namespaces.flatMap NamespaceDecl.names

section Names

variable {f : String → String}

/-- A list is the same with its members changed if they all are. -/
theorem map_eq_self_iff {α : Type} {g : α → α} {names : α → List String}
    (h : ∀ x, g x = x ↔ ∀ name ∈ names x, f name = name) (xs : List α) :
    xs.map g = xs ↔ ∀ name ∈ xs.flatMap names, f name = name := by
  induction xs with
  | nil => simp
  | cons x xs ih =>
    rw [List.map_cons, List.cons.injEq, h, ih, List.flatMap_cons, List.forall_mem_append]

theorem map_name_eq_self_iff (names : List String) :
    names.map f = names ↔ ∀ name ∈ names, f name = name := by
  have hname : ∀ name, f name = name ↔ ∀ name' ∈ [name], f name' = name' := by simp
  rw [map_eq_self_iff hname, List.flatMap_singleton']

theorem FieldDecl.mapNames_eq_self_iff (field : FieldDecl) :
    field.mapNames f = field ↔ ∀ name ∈ field.names, f name = name := by
  cases field
  simp [mapNames, names]

theorem StructDecl.mapNames_eq_self_iff (s : StructDecl) :
    s.mapNames f = s ↔ ∀ name ∈ s.names, f name = name := by
  have hfields := map_eq_self_iff (FieldDecl.mapNames_eq_self_iff (f := f))
  obtain ⟨name, parent, fields⟩ := s
  cases parent <;> cases fields <;> simp [mapNames, names, declaredFields, hfields]

theorem NamespaceDecl.mapNames_eq_self_iff (space : NamespaceDecl) :
    space.mapNames f = space ↔ ∀ name ∈ space.names, f name = name := by
  have hstructs := map_eq_self_iff (StructDecl.mapNames_eq_self_iff (f := f))
  cases space
  simp only [mapNames, names, mk.injEq, hstructs, map_name_eq_self_iff, List.cons_append,
    List.forall_mem_cons, List.forall_mem_append, and_assoc]

/-- A schema is the same with its names changed if they all are the same. -/
theorem Schema.mapNames_eq_self_iff (schema : Schema) :
    schema.mapNames f = schema ↔ ∀ name ∈ schema.names, f name = name := by
  have hstructs := map_eq_self_iff (StructDecl.mapNames_eq_self_iff (f := f))
  have hspaces := map_eq_self_iff (NamespaceDecl.mapNames_eq_self_iff (f := f))
  cases schema
  simp only [mapNames, names, mk.injEq, hstructs, hspaces, map_name_eq_self_iff,
    List.forall_mem_append, and_assoc]

end Names

/-! ## Element trees -/

section Elements

variable (encode : String → String)

/-- An element with a name. -/
def namedElement (tagName name : String) : Element :=
  ⟨⟨tagName, [⟨"Name", encode name⟩]⟩, []⟩

/-- The element of a field. -/
def FieldDecl.element (field : FieldDecl) : Element :=
  ⟨⟨"Field", [⟨"Name", encode field.name⟩, ⟨"Type", encode field.typeName⟩]⟩, []⟩

/-- The element of a struct. -/
def StructDecl.element (s : StructDecl) : Element :=
  ⟨⟨"Struct", ⟨"Name", encode s.name⟩ ::
      (s.parent.map fun parent => ⟨"Extends", encode parent⟩).toList⟩,
    s.declaredFields.map (FieldDecl.element encode)⟩

/-- The element of a namespace. -/
def NamespaceDecl.element (space : NamespaceDecl) : Element :=
  ⟨⟨"Namespace", [⟨"Name", encode space.name⟩, ⟨"ApiName", encode space.apiName⟩]⟩,
    space.structs.map (StructDecl.element encode) ++
      space.interfaces.map (namedElement encode "Interface") ++
      space.enums.map (namedElement encode "Enum")⟩

/-- The root element of a schema. -/
def Schema.element (schema : Schema) : Element :=
  ⟨⟨"Settings", []⟩,
    schema.primitives.map (namedElement encode "Primitive") ++
      schema.structs.map (StructDecl.element encode) ++
      schema.namespaces.map (NamespaceDecl.element encode)⟩

end Elements

/-- All structs of a schema. -/
def Schema.structDecls (schema : Schema) : List StructDecl :=
  schema.structs ++ schema.namespaces.flatMap NamespaceDecl.structs

/-- No struct has a field list without fields. -/
def Schema.NoEmptyFieldLists (schema : Schema) : Prop :=
  ∀ s ∈ schema.structDecls, s.fields ≠ some []

instance : DecidablePred Schema.NoEmptyFieldLists := fun schema =>
  inferInstanceAs (Decidable (∀ s ∈ schema.structDecls, _))

/-! ## What the trees declare -/

section Declares

variable (encode : String → String)

theorem declaresName_namedElement (tagName name : String) :
    DeclaresName (namedElement encode tagName name) (encode name) :=
  rfl

theorem declaresField_element (field : FieldDecl) :
    DeclaresField (field.element encode) (field.mapNames encode) :=
  ⟨rfl, rfl⟩

/-- Elements of one name are all that have this name, or none has another one. -/
theorem filter_map_named {α : Type} (f : α → Element) {tagName : String}
    (h : ∀ x, (f x).tag.name = tagName) (xs : List α) (name : String) :
    (xs.map f).filter (fun child => child.tag.name = name) =
      if tagName = name then xs.map f else [] := by
  by_cases hname : tagName = name
  · rw [if_pos hname, List.filter_eq_self]
    exact List.forall_mem_map.2 fun x _ => decide_eq_true ((h x).trans hname)
  · rw [if_neg hname, List.filter_eq_nil_iff]
    exact List.forall_mem_map.2 fun x _ => by simp [h x, hname]

theorem declaresStruct_element {s : StructDecl} (h : s.fields ≠ some []) :
    DeclaresStruct (s.element encode) (s.mapNames encode) := by
  have hnamed : (s.element encode).named "Field" =
      s.declaredFields.map (FieldDecl.element encode) :=
    filter_map_named (FieldDecl.element encode) (fun _ => rfl) _ _
  have hfields : (s.mapNames encode).declaredFields =
      s.declaredFields.map (FieldDecl.mapNames encode) := by
    cases hs : s.fields <;> simp [StructDecl.mapNames, StructDecl.declaredFields, hs]
  refine ⟨rfl, ?_, ?_, ?_⟩
  · cases hparent : s.parent <;> simp [StructDecl.mapNames, StructDecl.element, Tag.value?, hparent]
  · rw [hnamed, List.map_eq_nil_iff]
    cases hs : s.fields with
    | none => simp [StructDecl.mapNames, StructDecl.isUnion, StructDecl.declaredFields, hs]
    | some fields =>
      have hne : fields ≠ [] := fun hempty => h (hempty ▸ hs)
      simp [StructDecl.mapNames, StructDecl.isUnion, StructDecl.declaredFields, hs, hne]
  · rw [hnamed, hfields]
    exact forall₂_map_map fun field _ => declaresField_element encode field

theorem declaresNamespace_element {space : NamespaceDecl}
    (h : ∀ s ∈ space.structs, s.fields ≠ some []) :
    DeclaresNamespace (space.element encode) (space.mapNames encode) := by
  have hnamed : ∀ name, (space.element encode).named name =
      (if "Struct" = name then space.structs.map (StructDecl.element encode) else []) ++
        (if "Interface" = name then
          space.interfaces.map (namedElement encode "Interface") else []) ++
        (if "Enum" = name then space.enums.map (namedElement encode "Enum") else []) := by
    intro name
    rw [Element.named, NamespaceDecl.element, List.filter_append, List.filter_append,
      filter_map_named (StructDecl.element encode) fun _ => rfl,
      filter_map_named (namedElement encode "Interface") fun _ => rfl,
      filter_map_named (namedElement encode "Enum") fun _ => rfl]
  refine ⟨rfl, rfl, ?_, ?_, ?_⟩ <;> rw [hnamed] <;>
    simp only [String.reduceEq, if_true, if_false, List.append_nil, List.nil_append]
  · exact forall₂_map_map fun s hs => declaresStruct_element encode (h s hs)
  · exact forall₂_map_map fun name _ => declaresName_namedElement encode "Interface" name
  · exact forall₂_map_map fun name _ => declaresName_namedElement encode "Enum" name

/-- The tree of a schema declares the schema with its names in the form they are written
in. -/
theorem declaresSchema_element {schema : Schema} (h : schema.NoEmptyFieldLists) :
    DeclaresSchema (schema.element encode) (schema.mapNames encode) := by
  have hstructs : ∀ s ∈ schema.structs, s.fields ≠ some [] := fun s hs =>
    h s (List.mem_append_left _ hs)
  have hspaces : ∀ space ∈ schema.namespaces, ∀ s ∈ space.structs, s.fields ≠ some [] :=
    fun space hspace s hs => h s (List.mem_append_right _ (List.mem_flatMap.2 ⟨space, hspace, hs⟩))
  have hnamed : ∀ name, (schema.element encode).named name =
      (if "Primitive" = name then
        schema.primitives.map (namedElement encode "Primitive") else []) ++
        (if "Struct" = name then schema.structs.map (StructDecl.element encode) else []) ++
        (if "Namespace" = name then
          schema.namespaces.map (NamespaceDecl.element encode) else []) := by
    intro name
    rw [Element.named, Schema.element, List.filter_append, List.filter_append,
      filter_map_named (namedElement encode "Primitive") fun _ => rfl,
      filter_map_named (StructDecl.element encode) fun _ => rfl,
      filter_map_named (NamespaceDecl.element encode) fun _ => rfl]
  refine ⟨?_, ?_, ?_⟩ <;> rw [hnamed] <;>
    simp only [String.reduceEq, if_true, if_false, List.append_nil, List.nil_append]
  · exact forall₂_map_map fun name _ => declaresName_namedElement encode "Primitive" name
  · exact forall₂_map_map fun s hs => declaresStruct_element encode (hstructs s hs)
  · exact forall₂_map_map fun space hspace =>
      declaresNamespace_element encode (hspaces space hspace)

end Declares

/-! ## Documents -/

/-- The document of a root element is read as the schema that the root declares. -/
theorem readSchema_of_declares {root : Element} {schema : Schema} (h : root.Quotable)
    (hname : root.tag.name = "Settings")
    (hnested : ∀ child ∈ root.children, child.tag.name ≠ "Settings")
    (hdeclares : DeclaresSchema root schema) : readSchema root.document = .ok schema := by
  obtain ⟨events, hspells, hread⟩ := Markup.ofText_document h
  rw [readSchema, hread, readDeclarations_root hspells hname hnested,
    Schema.ofElement_eq_ok_of_declares hdeclares]

theorem name_ne_root_of_mem (encode : String → String) (schema : Schema) :
    ∀ child ∈ (schema.element encode).children, child.tag.name ≠ "Settings" := by
  have hother : ∀ name ∈ ["Primitive", "Struct", "Namespace"], name ≠ "Settings" := by decide
  simp only [Schema.element, List.forall_mem_append, List.forall_mem_map]
  exact ⟨⟨fun _ _ => hother "Primitive" (by decide), fun _ _ => hother "Struct" (by decide)⟩,
    fun _ _ => hother "Namespace" (by decide)⟩

section Documents

variable {encode : String → String} (hencode : ∀ name, '"' ∉ (encode name).toList)

include hencode

theorem quotable_namedElement {tagName : String} (h : Markup.IsName tagName) (name : String) :
    (namedElement encode tagName name).Quotable :=
  ⟨.of_keys ["Name"] rfl ⟨h, by decide⟩ (by simp [hencode]), trivial⟩

theorem quotable_fieldElement (field : FieldDecl) : (field.element encode).Quotable :=
  ⟨.of_keys ["Name", "Type"] rfl (by decide) (by simp [hencode]), trivial⟩

theorem quotable_structElement (s : StructDecl) : (s.element encode).Quotable := by
  have hfields : ∀ e ∈ s.declaredFields.map (FieldDecl.element encode), e.Quotable :=
    List.forall_mem_map.2 fun field _ => quotable_fieldElement hencode field
  refine ⟨?_, allQuotable_iff.2 hfields⟩
  cases s.parent with
  | none => exact .of_keys ["Name"] rfl (by decide) (by simp [hencode])
  | some parent => exact .of_keys ["Name", "Extends"] rfl (by decide) (by simp [hencode])

theorem quotable_namespaceElement (space : NamespaceDecl) : (space.element encode).Quotable := by
  refine ⟨.of_keys ["Name", "ApiName"] rfl (by decide) (by simp [hencode]), allQuotable_iff.2 ?_⟩
  simp only [List.forall_mem_append, List.forall_mem_map]
  refine ⟨⟨fun s _ => ?_, fun name _ => ?_⟩, fun name _ => ?_⟩
  · exact quotable_structElement hencode s
  · exact quotable_namedElement hencode (by decide) name
  · exact quotable_namedElement hencode (by decide) name

theorem quotable_schemaElement (schema : Schema) : (schema.element encode).Quotable := by
  refine ⟨.of_keys [] rfl (by decide) (by simp), allQuotable_iff.2 ?_⟩
  simp only [List.forall_mem_append, List.forall_mem_map]
  refine ⟨⟨fun name _ => ?_, fun s _ => ?_⟩, fun space _ => ?_⟩
  · exact quotable_namedElement hencode (by decide) name
  · exact quotable_structElement hencode s
  · exact quotable_namespaceElement hencode space

/-- What is written in the form of values is read in this form. -/
theorem readSchema_document {schema : Schema} (h : schema.NoEmptyFieldLists) :
    readSchema (schema.element encode).document = .ok (schema.mapNames encode) :=
  readSchema_of_declares (quotable_schemaElement hencode schema) rfl
    (name_ne_root_of_mem encode schema) (declaresSchema_element encode h)

end Documents

/-- A schema that is written with its names escaped is read with its names as they are
written, that is escaped; so what is read is the schema exactly if it has no name with a
character that is escaped. -/
theorem readSchema_escaped {schema : Schema} (h : schema.NoEmptyFieldLists) :
    readSchema (schema.element escape).document = .ok (schema.mapNames escape) ∧
      (readSchema (schema.element escape).document = .ok schema ↔
        ∀ name ∈ schema.names, ∀ c ∈ name.toList, ¬ IsEscaped c) := by
  have hread := readSchema_document Markup.quote_not_mem_escape h
  refine ⟨hread, ?_⟩
  rw [hread, Except.ok.injEq, Schema.mapNames_eq_self_iff]
  simp only [Markup.escape_eq_self_iff]

/-- A schema with templates among its names. -/
def templateSchema : Schema where
  primitives := ["A&B"]
  structs := [⟨"PAIR<A, B>", none, some [⟨"first", "A&B"⟩, ⟨"say \"hi\"", "Geo::LIST<A>"⟩]⟩]
  namespaces := [⟨"Geo", "G&o", [⟨"LIST<A>", some "PAIR<A, B>", none⟩], ["IVector<A>"], ["Kind"]⟩]

/-- The templates are read as they are written. -/
theorem readSchema_escaped_templates :
    templateSchema.NoEmptyFieldLists ∧
      readSchema (templateSchema.element escape).document =
        .ok ⟨["A&amp;B"],
          [⟨"PAIR&lt;A, B&gt;", none,
            some [⟨"first", "A&amp;B"⟩, ⟨"say &quot;hi&quot;", "Geo::LIST&lt;A&gt;"⟩]⟩],
          [⟨"Geo", "G&amp;o", [⟨"LIST&lt;A&gt;", some "PAIR&lt;A, B&gt;", none⟩],
            ["IVector&lt;A&gt;"], ["Kind"]⟩]⟩ ∧
      readSchema (templateSchema.element escape).document ≠ .ok templateSchema := by
  have hlists : templateSchema.NoEmptyFieldLists := by decide
  obtain ⟨hread, hsame⟩ := readSchema_escaped hlists
  refine ⟨hlists, hread.trans (congrArg Except.ok (by decide +kernel)), ?_⟩
  rw [ne_eq, hsame]
  intro hplain
  exact hplain "A&B" List.mem_cons_self '&' (by simp) (by decide)

/-- A reference in a name is not resolved: the ampersand of a name, escaped, is read
escaped. -/
theorem readSchema_ampersand :
    let schema : Schema := ⟨["A&B"], [], []⟩
    let text := "<Settings><Primitive Name=\"A&amp;B\"></Primitive></Settings>"
    schema.NoEmptyFieldLists ∧ (∀ name ∈ schema.names, ∀ c ∈ name.toList, 32 ≤ c.toNat) ∧
      (schema.element escape).document = text ∧ readSchema text = .ok ⟨["A&amp;B"], [], []⟩ ∧
      readSchema text ≠ .ok schema := by
  intro schema text
  have hlists : schema.NoEmptyFieldLists := by decide
  have htext : (schema.element escape).document = text := by decide +kernel
  have hread := readSchema_document Markup.quote_not_mem_escape hlists
  have hnames : schema.mapNames escape = ⟨["A&amp;B"], [], []⟩ := by decide +kernel
  rw [htext, hnames] at hread
  refine ⟨hlists, List.forall_mem_singleton.2 (by simp), htext, hread, ?_⟩
  rw [hread]
  decide

end TypeProjection
