/-
  Proofs/Schema/Meaning.lean --- what the element tree of a schema means.

  The declarations of a schema are elements of its tree, in the order of the
  document.  What an element declares stands here as a relation, and next to it
  which attributes its element and those inside it have to have.  A schema that is
  written in any way is read as what its tree declares; if an attribute is
  lacking, the first one that is lacking is reported (`readSchema_verdict`).
-/
import TypeProjection.Proofs.Schema.Elements

set_option autoImplicit false

namespace TypeProjection

open Markup (Element Tag Written)

/-! ## Requirements -/

/-- An attribute that an element has to have. -/
structure Requirement where
  /-- The tag of the element. -/
  tag : Tag
  /-- The key of the attribute. -/
  key : String

namespace Requirement

/-- The element has the attribute. -/
def Met (r : Requirement) : Prop :=
  r.tag.value? r.key ≠ none

instance (r : Requirement) : Decidable r.Met :=
  inferInstanceAs (Decidable (_ ≠ _))

/-- The refusal that reports the attribute as lacking. -/
def refusal (r : Requirement) : ReadError :=
  .missingAttribute r.tag.name r.key

end Requirement

/-- The first of the requirements that are not met, if any, is what a reader
reports; if all are met, it gives a value with a property. -/
structure Reads {α : Type} (requirements : List Requirement) (p : α → Prop)
    (read : Except ReadError α) : Prop where
  /-- A value is given if all requirements are met. -/
  value : (∀ r ∈ requirements, r.Met) → ∃ a, read = .ok a ∧ p a
  /-- The first requirement that is not met is reported. -/
  refusal : ∀ r, IsFirst (fun r => ¬ r.Met) requirements r → read = .error r.refusal

namespace Reads

variable {α β : Type} {p : α → Prop} {q : β → Prop} {requirements others : List Requirement}
  {read : Except ReadError α}

theorem ok {a : α} (h : p a) : Reads [] p (.ok a) :=
  ⟨fun _ => ⟨a, rfl, h⟩, fun _ hfirst => absurd hfirst not_isFirst_nil⟩

/-- A reader that goes on with another one has the requirements of both. -/
theorem bind {next : α → Except ReadError β} (h : Reads requirements p read)
    (hnext : ∀ a, p a → Reads others q (next a)) :
    Reads (requirements ++ others) q (read >>= next) where
  value hmet := by
    rw [List.forall_mem_append] at hmet
    obtain ⟨a, hread, ha⟩ := h.value hmet.1
    rw [hread]
    exact (hnext a ha).value hmet.2
  refusal r hfirst := by
    rcases isFirst_append_iff.1 hfirst with hfirst | ⟨hmet, hfirst⟩
    · rw [h.refusal r hfirst]
      rfl
    · obtain ⟨a, hread, ha⟩ := h.value fun r hr => not_not.1 (hmet r hr)
      rw [hread]
      exact (hnext a ha).refusal r hfirst

theorem map {f : α → β} (h : Reads requirements p read) (hf : ∀ a, p a → q (f a)) :
    Reads requirements q (read.map f) where
  value hmet := by
    obtain ⟨a, hread, ha⟩ := h.value hmet
    rw [hread]
    exact ⟨f a, rfl, hf a ha⟩
  refusal r hfirst := by
    rw [h.refusal r hfirst]
    rfl

/-- If what holds of an element is kept up when one more element is added inside
it, it holds of the element with all those inside it. -/
theorem children {tag : Tag} {step : β → Element → Except ReadError β}
    {required : Element → List Requirement} {holds : Element → β → Prop}
    (hstep : ∀ done child b, holds ⟨tag, done⟩ b →
      Reads (required child) (holds ⟨tag, done ++ [child]⟩) (step b child))
    (children : List Element) {b : β} (h : holds ⟨tag, []⟩ b) :
    Reads (children.flatMap required) (holds ⟨tag, children⟩) (children.foldlM step b) := by
  suffices hfold : ∀ (rest done : List Element) (b : β), holds ⟨tag, done⟩ b →
      Reads (rest.flatMap required) (holds ⟨tag, done ++ rest⟩) (rest.foldlM step b) from
    hfold children [] b h
  -- the elements that are done are part of what holds, so they vary along
  intro rest
  induction rest with
  | nil =>
    intro done b h
    rw [List.append_nil]
    exact ok h
  | cons child rest ih =>
    intro done b h
    rw [List.foldlM_cons, List.flatMap_cons, List.append_cons done child rest]
    exact (hstep done child b h).bind (ih _)

/-- Reading an attribute requires it. -/
theorem requireAttribute {tag : Tag} {element : String} (hname : tag.name = element)
    (key : String) : Reads [⟨tag, key⟩] (fun value => tag.value? key = some value)
      (requireAttribute tag element key) where
  value hmet := by
    rw [List.forall_mem_singleton] at hmet
    obtain ⟨value, hvalue⟩ := Option.ne_none_iff_exists'.1 hmet
    exact ⟨value, by rw [TypeProjection.requireAttribute, hvalue], hvalue⟩
  refusal r hfirst := by
    rcases isFirst_cons_iff.1 hfirst with ⟨hunmet, rfl⟩ | ⟨-, hnone⟩
    · rw [TypeProjection.requireAttribute, not_not.1 hunmet, Requirement.refusal, hname]
    · exact absurd hnone not_isFirst_nil

end Reads

/-! ## Elements inside an element -/

/-- What is named inside an element with one more element at its end. -/
theorem named_append (tag : Tag) (done : List Element) (child : Element) (name : String) :
    (Element.mk tag (done ++ [child])).named name =
      (Element.mk tag done).named name ++ if child.tag.name = name then [child] else [] := by
  rw [Element.named, List.filter_append, List.filter_singleton]
  by_cases hname : child.tag.name = name <;> simp [Element.named, hname]

/-- What the elements inside an element declare, when one of them is added that
declares something as well. -/
theorem forall₂_named_append {α : Type} {R : Element → α → Prop} {tag : Tag}
    {done : List Element} {child : Element} {name : String} {xs : List α} {x : α}
    (h : List.Forall₂ R ((Element.mk tag done).named name) xs) (hname : child.tag.name = name)
    (hx : R child x) :
    List.Forall₂ R ((Element.mk tag (done ++ [child])).named name) (xs ++ [x]) := by
  rw [named_append, if_pos hname]
  exact List.rel_append h (.cons hx .nil)

/-- An element with another name does not matter. -/
theorem named_append_of_ne {tag : Tag} {done : List Element} {child : Element} {name : String}
    (hname : child.tag.name ≠ name) :
    (Element.mk tag (done ++ [child])).named name = (Element.mk tag done).named name := by
  rw [named_append, if_neg hname, List.append_nil]

theorem forall₂_named_append_of_ne {α : Type} {R : Element → α → Prop} {tag : Tag}
    {done : List Element} {child : Element} {name : String} {xs : List α}
    (h : List.Forall₂ R ((Element.mk tag done).named name) xs) (hname : child.tag.name ≠ name) :
    List.Forall₂ R ((Element.mk tag (done ++ [child])).named name) xs := by
  rwa [named_append_of_ne hname]

/-! ## Structs -/

/-- An element has a name. -/
def DeclaresName (e : Element) (name : String) : Prop :=
  e.tag.value? "Name" = some name

/-- An element declares a field. -/
structure DeclaresField (e : Element) (field : FieldDecl) : Prop where
  /-- The name is that of the element. -/
  name : DeclaresName e field.name
  /-- The type is in an attribute. -/
  typeName : e.tag.value? "Type" = some field.typeName

/-- An element declares a struct with the elements inside it. -/
structure DeclaresStruct (e : Element) (s : StructDecl) : Prop where
  /-- The name is that of the element. -/
  name : DeclaresName e s.name
  /-- The struct that is extended is in an attribute. -/
  parent : s.parent = e.tag.value? "Extends"
  /-- Without an element of a field there is no field list. -/
  union : s.isUnion = true ↔ e.named "Field" = []
  /-- The fields are declared by the elements inside, in order. -/
  fields : List.Forall₂ DeclaresField (e.named "Field") s.declaredFields

/-- What an element inside a struct has to have. -/
def requiredInStruct (child : Element) : List Requirement :=
  if child.tag.name = "Field" then [⟨child.tag, "Name"⟩, ⟨child.tag, "Type"⟩] else []

/-- What the element of a struct and those inside it have to have, in the order of
the document. -/
def requiredOfStruct (e : Element) : List Requirement :=
  ⟨e.tag, "Name"⟩ :: e.children.flatMap requiredInStruct

theorem reads_fieldOfTag {child : Element} (hname : child.tag.name = "Field") :
    Reads [⟨child.tag, "Name"⟩, ⟨child.tag, "Type"⟩] (DeclaresField child)
      (fieldOfTag child.tag) :=
  (Reads.requireAttribute hname "Name").bind fun _ hvalue =>
    (Reads.requireAttribute hname "Type").map fun _ htype => ⟨hvalue, htype⟩

/-- An element inside a struct is a field of it, or does not matter. -/
theorem reads_addFieldOfTag {tag : Tag} {done : List Element} {s : StructDecl}
    (h : DeclaresStruct ⟨tag, done⟩ s) (child : Element) :
    Reads (requiredInStruct child) (DeclaresStruct ⟨tag, done ++ [child]⟩)
      (addFieldOfTag s child.tag) := by
  unfold requiredInStruct addFieldOfTag
  by_cases hname : child.tag.name = "Field"
  · rw [if_pos hname, if_pos hname]
    refine (reads_fieldOfTag hname).map fun field hfield => ⟨h.name, h.parent, ?_, ?_⟩
    · simp [named_append, hname, StructDecl.isUnion, StructDecl.addField]
    · exact forall₂_named_append h.fields hname hfield
  · rw [if_neg hname, if_neg hname]
    refine Reads.ok ⟨h.name, h.parent, ?_, ?_⟩
    · rw [named_append_of_ne hname]
      exact h.union
    · rw [named_append_of_ne hname]
      exact h.fields

theorem reads_structOfTag {tag : Tag} (hname : tag.name = "Struct") :
    Reads [⟨tag, "Name"⟩] (DeclaresStruct ⟨tag, []⟩) (structOfTag tag) :=
  (Reads.requireAttribute hname "Name").map fun _ hvalue =>
    ⟨hvalue, rfl, by simp [StructDecl.isUnion, Element.named], .nil⟩

/-- The element of a struct is read as the struct that it declares. -/
theorem reads_struct {e : Element} (hname : e.tag.name = "Struct") :
    Reads (requiredOfStruct e) (DeclaresStruct e) (StructDecl.ofElement e) := by
  obtain ⟨tag, children⟩ := e
  unfold requiredOfStruct
  exact (reads_structOfTag hname).bind fun _ hs =>
    Reads.children (fun _ child _ h => reads_addFieldOfTag h child) children hs

/-! ## Namespaces -/

/-- An element declares a namespace with the elements inside it. -/
structure DeclaresNamespace (e : Element) (space : NamespaceDecl) : Prop where
  /-- The name is that of the element. -/
  name : DeclaresName e space.name
  /-- The name in front of native names is in an attribute, or is the other one. -/
  apiName : space.apiName = (e.tag.value? "ApiName").getD space.name
  /-- The structs are declared by the elements inside, in order. -/
  structs : List.Forall₂ DeclaresStruct (e.named "Struct") space.structs
  /-- The interfaces are declared by the elements inside, in order. -/
  interfaces : List.Forall₂ DeclaresName (e.named "Interface") space.interfaces
  /-- The enums are declared by the elements inside, in order. -/
  enums : List.Forall₂ DeclaresName (e.named "Enum") space.enums

/-- What an element inside a namespace, and those inside it, have to have. -/
def requiredInNamespace (child : Element) : List Requirement :=
  if child.tag.name = "Struct" then requiredOfStruct child
  else if child.tag.name = "Interface" ∨ child.tag.name = "Enum" then [⟨child.tag, "Name"⟩]
  else []

/-- What the element of a namespace and those inside it have to have, in the order
of the document. -/
def requiredOfNamespace (e : Element) : List Requirement :=
  ⟨e.tag, "Name"⟩ :: e.children.flatMap requiredInNamespace

/-- An element inside a namespace is a type of it, or does not matter. -/
theorem reads_addElement {tag : Tag} {done : List Element} {space : NamespaceDecl}
    (h : DeclaresNamespace ⟨tag, done⟩ space) (child : Element) :
    Reads (requiredInNamespace child) (DeclaresNamespace ⟨tag, done ++ [child]⟩)
      (space.addElement child) := by
  unfold requiredInNamespace NamespaceDecl.addElement addNamedType
  by_cases hstruct : child.tag.name = "Struct"
  · rw [if_pos hstruct, if_pos hstruct]
    exact (reads_struct hstruct).map fun s hs =>
      { h with
        structs := forall₂_named_append h.structs hstruct hs
        interfaces := forall₂_named_append_of_ne h.interfaces (by simp [hstruct])
        enums := forall₂_named_append_of_ne h.enums (by simp [hstruct]) }
  have hstructs := forall₂_named_append_of_ne h.structs hstruct
  rw [if_neg hstruct, if_neg hstruct]
  by_cases hinterface : child.tag.name = "Interface"
  · rw [if_pos (.inl hinterface), if_pos hinterface]
    exact (Reads.requireAttribute hinterface "Name").map fun name hvalue =>
      { h with
        structs := hstructs
        interfaces := forall₂_named_append h.interfaces hinterface hvalue
        enums := forall₂_named_append_of_ne h.enums (by simp [hinterface]) }
  have hinterfaces := forall₂_named_append_of_ne h.interfaces hinterface
  by_cases henum : child.tag.name = "Enum"
  · rw [if_pos (.inr henum), if_neg hinterface, if_pos henum]
    exact (Reads.requireAttribute henum "Name").map fun name hvalue =>
      { h with
        structs := hstructs
        interfaces := hinterfaces
        enums := forall₂_named_append h.enums henum hvalue }
  · rw [if_neg (not_or.2 ⟨hinterface, henum⟩), if_neg hinterface, if_neg henum]
    exact .ok
      { h with
        structs := hstructs
        interfaces := hinterfaces
        enums := forall₂_named_append_of_ne h.enums henum }

theorem reads_namespaceOfTag {tag : Tag} (hname : tag.name = "Namespace") :
    Reads [⟨tag, "Name"⟩] (DeclaresNamespace ⟨tag, []⟩) (namespaceOfTag tag) :=
  (Reads.requireAttribute hname "Name").map fun _ hvalue => ⟨hvalue, rfl, .nil, .nil, .nil⟩

/-- The element of a namespace is read as the namespace that it declares. -/
theorem reads_namespace {e : Element} (hname : e.tag.name = "Namespace") :
    Reads (requiredOfNamespace e) (DeclaresNamespace e) (NamespaceDecl.ofElement e) := by
  obtain ⟨tag, children⟩ := e
  unfold requiredOfNamespace
  exact (reads_namespaceOfTag hname).bind fun _ hspace =>
    Reads.children (fun _ child _ h => reads_addElement h child) children hspace

/-! ## Schemas -/

/-- A root element declares a schema with the elements inside it. -/
structure DeclaresSchema (root : Element) (schema : Schema) : Prop where
  /-- The primitives are declared by the elements inside, in order. -/
  primitives : List.Forall₂ DeclaresName (root.named "Primitive") schema.primitives
  /-- The structs outside namespaces are declared by the elements inside, in order. -/
  structs : List.Forall₂ DeclaresStruct (root.named "Struct") schema.structs
  /-- The namespaces are declared by the elements inside, in order. -/
  namespaces : List.Forall₂ DeclaresNamespace (root.named "Namespace") schema.namespaces

/-- What an element directly in the root, and those inside it, have to have. -/
def requiredInSchema (child : Element) : List Requirement :=
  if child.tag.name = "Struct" then requiredOfStruct child
  else if child.tag.name = "Namespace" then requiredOfNamespace child
  else if child.tag.name = "Primitive" then [⟨child.tag, "Name"⟩]
  else []

/-- What the elements inside a root element have to have, in the order of the
document. -/
def requiredOfSchema (root : Element) : List Requirement :=
  root.children.flatMap requiredInSchema

/-- An element directly in the root is a declaration, or does not matter. -/
theorem reads_addDeclaration {tag : Tag} {done : List Element} {schema : Schema}
    (h : DeclaresSchema ⟨tag, done⟩ schema) (child : Element) :
    Reads (requiredInSchema child) (DeclaresSchema ⟨tag, done ++ [child]⟩)
      (schema.addElement child) := by
  unfold requiredInSchema Schema.addElement primitiveOfTag
  by_cases hstruct : child.tag.name = "Struct"
  · rw [if_pos hstruct, if_pos hstruct]
    exact (reads_struct hstruct).map fun s hs =>
      { primitives := forall₂_named_append_of_ne h.primitives (by simp [hstruct])
        structs := forall₂_named_append h.structs hstruct hs
        namespaces := forall₂_named_append_of_ne h.namespaces (by simp [hstruct]) }
  have hstructs := forall₂_named_append_of_ne h.structs hstruct
  rw [if_neg hstruct, if_neg hstruct]
  by_cases hspace : child.tag.name = "Namespace"
  · rw [if_pos hspace, if_pos hspace]
    exact (reads_namespace hspace).map fun space hdeclares =>
      { primitives := forall₂_named_append_of_ne h.primitives (by simp [hspace])
        structs := hstructs
        namespaces := forall₂_named_append h.namespaces hspace hdeclares }
  have hspaces := forall₂_named_append_of_ne h.namespaces hspace
  rw [if_neg hspace, if_neg hspace]
  by_cases hprimitive : child.tag.name = "Primitive"
  · rw [if_pos hprimitive, if_pos hprimitive]
    exact (Reads.requireAttribute hprimitive "Name").map fun name hvalue =>
      { primitives := forall₂_named_append h.primitives hprimitive hvalue
        structs := hstructs
        namespaces := hspaces }
  · rw [if_neg hprimitive, if_neg hprimitive]
    exact .ok
      { primitives := forall₂_named_append_of_ne h.primitives hprimitive
        structs := hstructs
        namespaces := hspaces }

/-- A root element is read as the schema that it declares. -/
theorem reads_schema (root : Element) :
    Reads (requiredOfSchema root) (DeclaresSchema root) (Schema.ofElement root) := by
  obtain ⟨tag, children⟩ := root
  exact Reads.children (fun _ child _ h => reads_addDeclaration h child) children
    ⟨.nil, .nil, .nil⟩

/-! ## One meaning -/

theorem rightUnique_declaresName : Relator.RightUnique DeclaresName := by
  intro e name name' h h'
  exact Option.some.inj (h.symm.trans h')

theorem rightUnique_declaresField : Relator.RightUnique DeclaresField := by
  intro e field field' h h'
  have hname := rightUnique_declaresName h.name h'.name
  have htype := Option.some.inj (h.typeName.symm.trans h'.typeName)
  cases field
  cases field'
  simp_all

/-- An element declares one struct. -/
theorem rightUnique_declaresStruct : Relator.RightUnique DeclaresStruct := by
  intro e s s' h h'
  have hname := rightUnique_declaresName h.name h'.name
  have hparent : s.parent = s'.parent := h.parent.trans h'.parent.symm
  have hunion : s.isUnion = s'.isUnion := Bool.eq_iff_iff.2 (h.union.trans h'.union.symm)
  have hfields := List.right_unique_forall₂' rightUnique_declaresField h.fields h'.fields
  obtain ⟨name, parent, fields⟩ := s
  obtain ⟨name', parent', fields'⟩ := s'
  -- the same declared fields are the same list, unless one of the lists is missing
  cases fields <;> cases fields' <;>
    simp_all [StructDecl.isUnion, StructDecl.declaredFields]

/-- An element declares one namespace. -/
theorem rightUnique_declaresNamespace : Relator.RightUnique DeclaresNamespace := by
  intro e space space' h h'
  have hname := rightUnique_declaresName h.name h'.name
  have hapiName : space.apiName = space'.apiName := by rw [h.apiName, h'.apiName, hname]
  have hstructs := List.right_unique_forall₂' rightUnique_declaresStruct h.structs h'.structs
  have hinterfaces :=
    List.right_unique_forall₂' rightUnique_declaresName h.interfaces h'.interfaces
  have henums := List.right_unique_forall₂' rightUnique_declaresName h.enums h'.enums
  cases space
  cases space'
  simp_all

/-- A root element declares one schema. -/
theorem rightUnique_declaresSchema : Relator.RightUnique DeclaresSchema := by
  intro root schema schema' h h'
  have hprimitives :=
    List.right_unique_forall₂' rightUnique_declaresName h.primitives h'.primitives
  have hstructs := List.right_unique_forall₂' rightUnique_declaresStruct h.structs h'.structs
  have hspaces :=
    List.right_unique_forall₂' rightUnique_declaresNamespace h.namespaces h'.namespaces
  cases schema
  cases schema'
  simp_all

/-! ## What declares something lacks nothing -/

theorem DeclaresName.met {e : Element} {name : String} (h : DeclaresName e name) :
    Requirement.Met ⟨e.tag, "Name"⟩ :=
  Option.ne_none_iff_exists'.2 ⟨name, h⟩

theorem DeclaresField.met {e : Element} {field : FieldDecl} (h : DeclaresField e field) :
    ∀ r ∈ [Requirement.mk e.tag "Name", ⟨e.tag, "Type"⟩], r.Met := by
  rw [List.forall_mem_cons, List.forall_mem_singleton]
  exact ⟨h.name.met, Option.ne_none_iff_exists'.2 ⟨_, h.typeName⟩⟩

/-- An element inside another one declares something if it has the name of elements that
do. -/
theorem exists_of_forall₂_named {α : Type} {R : Element → α → Prop} {e child : Element}
    {name : String} {xs : List α} (h : List.Forall₂ R (e.named name) xs)
    (hchild : child ∈ e.children) (hname : child.tag.name = name) : ∃ x, R child x := by
  have hmem : child ∈ e.named name := List.mem_filter.2 ⟨hchild, decide_eq_true hname⟩
  obtain ⟨x, -, hx⟩ := exists_of_mem_of_forall₂ h hmem
  exact ⟨x, hx⟩

theorem DeclaresStruct.met {e : Element} {s : StructDecl} (h : DeclaresStruct e s) :
    ∀ r ∈ requiredOfStruct e, r.Met := by
  refine List.forall_mem_cons.2 ⟨h.name.met, List.forall_mem_flatMap.2 fun child hchild => ?_⟩
  unfold requiredInStruct
  split
  · rename_i hname
    obtain ⟨field, hfield⟩ := exists_of_forall₂_named h.fields hchild hname
    exact hfield.met
  · exact List.forall_mem_nil _

theorem DeclaresNamespace.met {e : Element} {space : NamespaceDecl}
    (h : DeclaresNamespace e space) : ∀ r ∈ requiredOfNamespace e, r.Met := by
  refine List.forall_mem_cons.2 ⟨h.name.met, List.forall_mem_flatMap.2 fun child hchild => ?_⟩
  unfold requiredInNamespace
  split
  · rename_i hname
    obtain ⟨s, hs⟩ := exists_of_forall₂_named h.structs hchild hname
    exact hs.met
  · split
    · rename_i hnames
      have hnamed : ∃ name, DeclaresName child name := by
        rcases hnames with hname | hname
        · exact exists_of_forall₂_named h.interfaces hchild hname
        · exact exists_of_forall₂_named h.enums hchild hname
      obtain ⟨name, hname⟩ := hnamed
      exact List.forall_mem_singleton.2 hname.met
    · exact List.forall_mem_nil _

theorem DeclaresSchema.met {root : Element} {schema : Schema} (h : DeclaresSchema root schema) :
    ∀ r ∈ requiredOfSchema root, r.Met := by
  refine List.forall_mem_flatMap.2 fun child hchild => ?_
  unfold requiredInSchema
  split
  · rename_i hname
    obtain ⟨s, hs⟩ := exists_of_forall₂_named h.structs hchild hname
    exact hs.met
  · split
    · rename_i hname
      obtain ⟨space, hspace⟩ := exists_of_forall₂_named h.namespaces hchild hname
      exact hspace.met
    · split
      · rename_i hname
        obtain ⟨name, hdeclares⟩ := exists_of_forall₂_named h.primitives hchild hname
        exact List.forall_mem_singleton.2 hdeclares.met
      · exact List.forall_mem_nil _

/-- A root element is read as the schema that it declares, and as no other. -/
theorem Schema.ofElement_eq_ok_of_declares {root : Element} {schema : Schema}
    (h : DeclaresSchema root schema) : Schema.ofElement root = .ok schema := by
  obtain ⟨schema', hread, h'⟩ := (reads_schema root).value h.met
  rw [hread, rightUnique_declaresSchema h' h]

/-! ## Documents -/

/-- However the element tree of a schema is written, it is read as the schema that
its root declares if no element that matters lacks an attribute that it has to
have; otherwise the first attribute that is lacking is reported. -/
theorem readSchema_verdict {root : Element} {text : String} (h : Written [root] text.toList)
    (hname : root.tag.name = "Settings")
    (hnested : ∀ child ∈ root.children, child.tag.name ≠ "Settings") :
    (∀ schema, readSchema text = .ok schema ↔
      (∀ r ∈ requiredOfSchema root, r.Met) ∧ DeclaresSchema root schema) ∧
    ((∃ schema, readSchema text = .ok schema) ↔ ∀ r ∈ requiredOfSchema root, r.Met) ∧
    ∀ e, readSchema text = .error e ↔
      ∃ r, IsFirst (fun r => ¬ r.Met) (requiredOfSchema root) r ∧ r.refusal = e := by
  have hreads := reads_schema root
  rw [← readSchema_of_written h hname hnested] at hreads
  by_cases hmet : ∀ r ∈ requiredOfSchema root, r.Met
  · obtain ⟨schema, hread, hdeclares⟩ := hreads.value hmet
    rw [hread]
    refine ⟨fun schema' => ?_, by simpa using hmet, fun e => ?_⟩
    · rw [Except.ok.injEq]
      exact ⟨fun heq => heq ▸ ⟨hmet, hdeclares⟩, fun h' =>
        rightUnique_declaresSchema hdeclares h'.2⟩
    · simp only [reduceCtorEq, false_iff]
      intro hex
      obtain ⟨r, hfirst, -⟩ := hex
      exact hfirst.holds (hmet r hfirst.mem)
  · obtain ⟨r, hfirst⟩ := exists_isFirst (p := fun r => ¬ Requirement.Met r) (by simpa using hmet)
    rw [hreads.refusal r hfirst]
    refine ⟨by simp [hmet], by simp [hmet], fun e => ?_⟩
    rw [Except.error.injEq]
    constructor
    · intro heq
      exact ⟨r, hfirst, heq⟩
    · intro hex
      obtain ⟨r', hfirst', heq⟩ := hex
      rwa [hfirst.unique hfirst']

/-- The schema of a struct with a field. -/
def boxSchema : Element :=
  ⟨⟨"Settings", []⟩,
    [⟨⟨"Struct", [⟨"Name", "Box"⟩]⟩, [⟨⟨"Field", [⟨"Name", "w"⟩, ⟨"Type", "f64"⟩]⟩, []⟩]⟩]⟩

/-- The schema of the box as a text. -/
def boxSchemaText : String :=
  "<Settings><Struct Name=\"Box\"><Field Name=\"w\" Type=\"f64\"></Field></Struct></Settings>"

set_option maxRecDepth 4000 in
theorem document_boxSchema : boxSchema.document = boxSchemaText := by
  rfl

/-- A box is read with its field. -/
theorem readSchema_verdict_box :
    Written [boxSchema] boxSchemaText.toList ∧
      readSchema boxSchemaText = .ok ⟨[], [⟨"Box", none, some [⟨"w", "f64"⟩]⟩], []⟩ := by
  have hwritten : Written [boxSchema] boxSchemaText.toList :=
    document_boxSchema ▸ Markup.written_document (by decide)
  have hverdict := (readSchema_verdict hwritten rfl (by decide)).1
  refine ⟨hwritten, (hverdict _).2 ⟨by decide, .nil, ?_, .nil⟩⟩
  exact .cons ⟨rfl, rfl, by decide, .cons ⟨rfl, rfl⟩ .nil⟩ .nil

end TypeProjection
