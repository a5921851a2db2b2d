/-
  Proofs/Schema/Elements.lean --- a schema is read element by element.

  The readers go through events; on the events of an element tree they go through
  the elements of the tree.  Every reader deals with the elements directly inside
  its own one after the other and leaves nothing of an element unread, so reading
  is a fold over the elements.
-/
import TypeProjection.Proofs.Markup.Reading
import TypeProjection.Proofs.Traversal
import TypeProjection.Schema.Reader

set_option autoImplicit false

namespace TypeProjection

open Markup (Element Ending Event Spells Tag)

/-! ## Order of attributes -/

section Reordering

variable {tag tag' : Tag} (h : tag.Reorders tag')

include h

theorem requireAttribute_reorders (element key : String) :
    requireAttribute tag' element key = requireAttribute tag element key := by
  rw [requireAttribute, requireAttribute, h.value?_eq]

theorem structOfTag_reorders : structOfTag tag' = structOfTag tag := by
  rw [structOfTag, structOfTag, requireAttribute_reorders h, h.value?_eq]

theorem addFieldOfTag_reorders (s : StructDecl) :
    addFieldOfTag s tag' = addFieldOfTag s tag := by
  simp only [addFieldOfTag, fieldOfTag, requireAttribute_reorders h, h.name]

theorem namespaceOfTag_reorders : namespaceOfTag tag' = namespaceOfTag tag := by
  simp only [namespaceOfTag, requireAttribute_reorders h, h.value?_eq]

theorem addNamedType_reorders (space : NamespaceDecl) :
    addNamedType space tag' = addNamedType space tag := by
  simp only [addNamedType, requireAttribute_reorders h, h.name]

end Reordering

/-! ## Structs -/

/-- The end tag of an element that is passed over is its own. -/
theorem passOver_of_spells {elements : List Element} {events : List Event}
    (h : Spells elements events) (ending : Ending) (rest : List Event) :
    passOver ending (events ++ .closed :: rest) = .ok rest := by
  rw [passOver, Markup.afterElement?_closed h]

/-- The struct that an element declares with the elements inside it. -/
def StructDecl.ofElement (e : Element) : Except ReadError StructDecl := do
  let s ← structOfTag e.tag
  e.children.foldlM (fun s child => addFieldOfTag s child.tag) s

/-- The fields of a struct are read from the elements inside it, one by one. -/
theorem readFields_of_spells {children : List Element} {events : List Event}
    (h : Spells children events) (ending : Ending) (s : StructDecl) (rest : List Event) :
    readFields ending s (events ++ .closed :: rest) =
      (children.foldlM (fun s child => addFieldOfTag s child.tag) s).map (·, rest) := by
  induction h generalizing s with
  | nil =>
    rw [List.nil_append, readFields]
    rfl
  | aside h ih => rw [List.cons_append, readFields, ih]
  | single htag h ih =>
    rw [List.cons_append, readFields, addFieldOfTag_reorders htag, List.foldlM_cons]
    cases addFieldOfTag s _ with
    | error e => rfl
    | ok s' => exact ih s'
  | pair htag hinner h _ ih =>
    rw [List.cons_append, readFields_opened, addFieldOfTag_reorders htag, List.foldlM_cons,
      List.append_assoc, List.cons_append, passOver_of_spells hinner]
    cases addFieldOfTag s _ with
    | error e => rfl
    | ok s' => exact ih s'

theorem readStruct_of_spells {tag tag' : Tag} (htag : tag.Reorders tag')
    {children : List Element} {events : List Event} (h : Spells children events)
    (ending : Ending) (rest : List Event) :
    readStruct ending tag' (events ++ .closed :: rest) =
      (StructDecl.ofElement ⟨tag, children⟩).map (·, rest) := by
  rw [readStruct, structOfTag_reorders htag, StructDecl.ofElement]
  cases structOfTag tag with
  | error e => rfl
  | ok s => exact readFields_of_spells h ending s rest

/-! ## Namespaces -/

/-- The namespace with the type that an element inside it declares, if the element
declares one. -/
def NamespaceDecl.addElement (space : NamespaceDecl) (child : Element) :
    Except ReadError NamespaceDecl :=
  if child.tag.name = "Struct" then (StructDecl.ofElement child).map space.addStruct
  else addNamedType space child.tag

/-- The namespace that an element declares with the elements inside it. -/
def NamespaceDecl.ofElement (e : Element) : Except ReadError NamespaceDecl := do
  let space ← namespaceOfTag e.tag
  e.children.foldlM NamespaceDecl.addElement space

theorem StructDecl.ofElement_childless (tag : Tag) :
    StructDecl.ofElement ⟨tag, []⟩ = structOfTag tag := by
  rw [StructDecl.ofElement]
  cases structOfTag tag <;> rfl

theorem addChildlessType_eq {tag tag' : Tag} (h : tag.Reorders tag') (space : NamespaceDecl) :
    addChildlessType space tag' = space.addElement ⟨tag, []⟩ := by
  simp only [addChildlessType, NamespaceDecl.addElement, StructDecl.ofElement_childless,
    structOfTag_reorders h, addNamedType_reorders h, h.name]

/-- The types of a namespace are read from the elements inside it, one by one. -/
theorem readTypes_of_spells {children : List Element} {events : List Event}
    (h : Spells children events) (ending : Ending) (space : NamespaceDecl) (rest : List Event) :
    readTypes ending space (events ++ .closed :: rest) =
      (children.foldlM NamespaceDecl.addElement space).map (·, rest) := by
  induction h generalizing space with
  | nil =>
    rw [List.nil_append, readTypes]
    rfl
  | aside h ih => rw [List.cons_append, readTypes, ih]
  | single htag h ih =>
    rw [List.cons_append, readTypes, addChildlessType_eq htag, List.foldlM_cons]
    cases space.addElement _ with
    | error e => rfl
    | ok space' => exact ih space'
  | @pair tag tag' children elements inner events htag hinner h _ ih =>
    rw [List.cons_append, readTypes_opened, List.foldlM_cons, List.append_assoc,
      List.cons_append, readStruct_of_spells htag hinner, passOver_of_spells hinner,
      NamespaceDecl.addElement, addNamedType_reorders htag, htag.name]
    by_cases hstruct : tag.name = "Struct"
    · rw [if_pos hstruct, if_pos hstruct]
      cases StructDecl.ofElement ⟨tag, children⟩ with
      | error e => rfl
      | ok s => exact ih (space.addStruct s)
    · rw [if_neg hstruct, if_neg hstruct]
      cases addNamedType space tag with
      | error e => rfl
      | ok space' => exact ih space'

theorem readNamespace_of_spells {tag tag' : Tag} (htag : tag.Reorders tag')
    {children : List Element} {events : List Event} (h : Spells children events)
    (ending : Ending) (rest : List Event) :
    readNamespace ending tag' (events ++ .closed :: rest) =
      (NamespaceDecl.ofElement ⟨tag, children⟩).map (·, rest) := by
  rw [readNamespace, namespaceOfTag_reorders htag, NamespaceDecl.ofElement]
  cases namespaceOfTag tag with
  | error e => rfl
  | ok space => exact readTypes_of_spells h ending space rest

/-! ## Schemas -/

/-- The schema with what an element directly in its root declares, if the element
declares something. -/
def Schema.addElement (schema : Schema) (child : Element) : Except ReadError Schema :=
  if child.tag.name = "Struct" then (StructDecl.ofElement child).map schema.addStruct
  else if child.tag.name = "Namespace" then
    (NamespaceDecl.ofElement child).map schema.addNamespace
  else if child.tag.name = "Primitive" then
    (primitiveOfTag child.tag).map schema.addPrimitive
  else .ok schema

theorem NamespaceDecl.ofElement_childless (tag : Tag) :
    NamespaceDecl.ofElement ⟨tag, []⟩ = namespaceOfTag tag := by
  rw [NamespaceDecl.ofElement]
  cases namespaceOfTag tag <;> rfl

theorem extend_some {α : Type} (add : Schema → α → Schema) (schema : Schema)
    (read : Except ReadError α) :
    extend add (some schema) read = read.map fun declared => some (add schema declared) := by
  cases read <;> rfl

theorem addChildless_eq {tag tag' : Tag} (h : tag.Reorders tag')
    (hroot : tag.name ≠ "Settings") (schema : Schema) :
    addChildless (some schema) tag' = (schema.addElement ⟨tag, []⟩).map some := by
  simp only [addChildless, Schema.addElement, h.name, if_neg hroot, extend_some,
    StructDecl.ofElement_childless, NamespaceDecl.ofElement_childless, structOfTag_reorders h,
    namespaceOfTag_reorders h, primitiveOfTag, requireAttribute_reorders h]
  by_cases hprimitive : tag.name = "Primitive"
  · simp only [hprimitive, String.reduceEq, if_true, if_false]
    cases requireAttribute tag "Primitive" "Name" <;> rfl
  · rw [if_neg hprimitive, if_neg hprimitive]
    by_cases hstruct : tag.name = "Struct"
    · rw [if_pos hstruct, if_pos hstruct]
      cases structOfTag tag <;> rfl
    · rw [if_neg hstruct, if_neg hstruct]
      by_cases hspace : tag.name = "Namespace"
      · rw [if_pos hspace, if_pos hspace]
        cases namespaceOfTag tag <;> rfl
      · rw [if_neg hspace, if_neg hspace]
        rfl

/-- Inside the root, declarations are read from the elements, one by one. -/
theorem readDeclarations_of_spells {children : List Element} {events : List Event}
    (h : Spells children events) (hroot : ∀ child ∈ children, child.tag.name ≠ "Settings")
    (ending : Ending) (schema : Schema) (rest : List Event) :
    readDeclarations ending (some schema) (events ++ rest) =
      children.foldlM Schema.addElement schema >>= fun schema' =>
        readDeclarations ending (some schema') rest := by
  induction h generalizing schema rest with
  | nil => rfl
  | aside h ih => rw [List.cons_append, readDeclarations, ih hroot]
  | single htag h ih =>
    rw [List.forall_mem_cons] at hroot
    rw [List.cons_append, readDeclarations, addChildless_eq htag hroot.1, List.foldlM_cons]
    cases schema.addElement _ with
    | error e => rfl
    | ok schema' => exact ih hroot.2 schema' rest
  | @pair tag tag' children elements inner events htag hinner h _ ih =>
    rw [List.forall_mem_cons] at hroot
    rw [List.cons_append, readDeclarations_opened, List.foldlM_cons, List.append_assoc,
      List.cons_append, readStruct_of_spells htag hinner, readNamespace_of_spells htag hinner,
      passOver_of_spells hinner, Schema.addElement, htag.name, if_neg hroot.1, primitiveOfTag,
      requireAttribute_reorders htag]
    by_cases hstruct : tag.name = "Struct"
    · rw [if_pos hstruct, if_pos hstruct]
      cases StructDecl.ofElement ⟨tag, children⟩ with
      | error e => rfl
      | ok s => exact ih hroot.2 (schema.addStruct s) rest
    · rw [if_neg hstruct, if_neg hstruct]
      by_cases hspace : tag.name = "Namespace"
      · rw [if_pos hspace, if_pos hspace]
        cases NamespaceDecl.ofElement ⟨tag, children⟩ with
        | error e => rfl
        | ok space => exact ih hroot.2 (schema.addNamespace space) rest
      · rw [if_neg hspace, if_neg hspace]
        by_cases hprimitive : tag.name = "Primitive"
        · rw [if_pos hprimitive, if_pos hprimitive, extend_some]
          unfold primitiveOfTag
          cases requireAttribute tag "Primitive" "Name" with
          | error e => rfl
          | ok name => exact ih hroot.2 (schema.addPrimitive name) rest
        · rw [if_neg hprimitive, if_neg hprimitive]
          exact ih hroot.2 schema rest

/-- The schema that a root element declares with the elements inside it. -/
def Schema.ofElement (root : Element) : Except ReadError Schema :=
  root.children.foldlM Schema.addElement .empty

/-- Behind the root element nothing changes any more. -/
theorem readDeclarations_behind_root {events : List Event} (h : Spells [] events)
    (schema : Schema) : readDeclarations .complete (some schema) events = .ok schema := by
  have hread := readDeclarations_of_spells h (by simp) .complete schema []
  rw [List.append_nil] at hread
  rw [hread]
  show readDeclarations .complete (some schema) [] = .ok schema
  rw [readDeclarations]

/-- A document with a root element is read as the schema of the root. -/
theorem readDeclarations_root {root : Element} {events : List Event}
    (h : Spells [root] events) (hname : root.tag.name = "Settings")
    (hnested : ∀ child ∈ root.children, child.tag.name ≠ "Settings") :
    readDeclarations .complete none events = Schema.ofElement root := by
  generalize heq : [root] = elements at h
  induction h with
  | nil => simp at heq
  | aside h ih => rw [readDeclarations, ih heq]
  | @single tag tag' elements events htag h _ =>
    obtain ⟨rfl, rfl⟩ := List.cons.inj heq
    have hempty : addChildless none tag' = .ok (some .empty) := by
      rw [addChildless, htag.name, if_pos hname]
    rw [readDeclarations, hempty]
    exact readDeclarations_behind_root h .empty
  | @pair tag tag' children elements inner events htag hinner h _ _ =>
    obtain ⟨rfl, rfl⟩ := List.cons.inj heq
    rw [readDeclarations_opened, htag.name, if_pos hname,
      readDeclarations_of_spells hinner hnested, Schema.ofElement]
    cases children.foldlM Schema.addElement .empty with
    | error e => rfl
    | ok schema =>
      show readDeclarations .complete (some schema) (.closed :: events) = .ok schema
      rw [readDeclarations]
      exact readDeclarations_behind_root h schema

/-- However the tree of a schema is written, what is read is the schema of its
root. -/
theorem readSchema_of_written {root : Element} {text : String}
    (h : Markup.Written [root] text.toList) (hname : root.tag.name = "Settings")
    (hnested : ∀ child ∈ root.children, child.tag.name ≠ "Settings") :
    readSchema text = Schema.ofElement root := by
  obtain ⟨events, hspells, hread⟩ := Markup.ofText_of_written h
  rw [readSchema, hread]
  exact readDeclarations_root hspells hname hnested

end TypeProjection
