/-
  Schema/Reader.lean --- reading a type schema.

  Elements that mean nothing to a schema are passed over with all they contain.
  A reader of an element gets the events behind its start tag and returns those
  behind its end tag.
-/
import TypeProjection.ReadError
import TypeProjection.Schema.Declaration

set_option autoImplicit false

namespace TypeProjection

open Markup (Ending Event Tag afterElement? length_of_afterElement?)

/-- The events behind the element whose start tag was just read. -/
def passOver (ending : Ending) (events : List Event) : Except ReadError (List Event) :=
  match afterElement? 0 events with
  | some rest => .ok rest
  | none => .error (.ofEnding ending unexpectedEnd)

theorem afterElement?_of_passOver {ending : Ending} {events rest : List Event}
    (h : passOver ending events = .ok rest) : afterElement? 0 events = some rest := by
  unfold passOver at h
  split at h
  · rename_i heq
    rw [heq, Except.ok.inj h]
  · exact absurd h (by simp)

theorem length_of_passOver {ending : Ending} {events rest : List Event}
    (h : passOver ending events = .ok rest) : rest.length < events.length :=
  length_of_afterElement? (afterElement?_of_passOver h)

/-! ## Structs -/

/-- The field that an element declares. -/
def fieldOfTag (tag : Tag) : Except ReadError FieldDecl := do
  let name ← requireAttribute tag "Field" "Name"
  let typeName ← requireAttribute tag "Field" "Type"
  return ⟨name, typeName⟩

/-- The struct that the attributes of an element declare, without a field
list. -/
def structOfTag (tag : Tag) : Except ReadError StructDecl := do
  let name ← requireAttribute tag "Struct" "Name"
  return ⟨name, tag.value? "Extends", none⟩

/-- The struct with the field that an element inside it declares, if the element
declares one. -/
def addFieldOfTag (s : StructDecl) (tag : Tag) : Except ReadError StructDecl :=
  if tag.name = "Field" then (fieldOfTag tag).map s.addField else .ok s

set_option linter.unusedVariables false in
/-- Reads the fields of a struct up to its end tag. -/
def readFields (ending : Ending) (s : StructDecl) :
    List Event → Except ReadError (StructDecl × List Event)
  | [] => .error (.ofEnding ending (unterminated "Struct" s.name))
  | .closed :: events => .ok (s, events)
  | .aside :: events => readFields ending s events
  | .childless tag :: events =>
    match addFieldOfTag s tag with
    | .error e => .error e
    | .ok s' => readFields ending s' events
  | .opened tag :: events =>
    match addFieldOfTag s tag with
    | .error e => .error e
    | .ok s' =>
      match hrest : passOver ending events with
      | .error e => .error e
      | .ok rest => readFields ending s' rest
termination_by events => events.length
decreasing_by
  · exact Nat.lt_succ_self _
  · exact Nat.lt_succ_self _
  · exact Nat.lt_succ_of_lt (length_of_passOver hrest)

/-- An element inside a struct may declare a field, and is passed over. -/
theorem readFields_opened (ending : Ending) (s : StructDecl) (tag : Tag)
    (events : List Event) :
    readFields ending s (.opened tag :: events) =
      match addFieldOfTag s tag with
      | .error e => .error e
      | .ok s' =>
        match passOver ending events with
        | .error e => .error e
        | .ok rest => readFields ending s' rest := by
  rw [readFields]
  cases addFieldOfTag s tag with
  | error e => rfl
  | ok s' =>
    dsimp only
    split <;> simp_all

/-- Reads a struct whose start tag was just read. -/
def readStruct (ending : Ending) (tag : Tag) (events : List Event) :
    Except ReadError (StructDecl × List Event) :=
  match structOfTag tag with
  | .error e => .error e
  | .ok s => readFields ending s events

theorem length_of_readFields {ending : Ending} {s s' : StructDecl} {events rest : List Event}
    (h : readFields ending s events = .ok (s', rest)) : rest.length < events.length := by
  fun_induction readFields ending s events with
  | case1 => simp at h
  | case2 s events =>
    obtain ⟨-, rfl⟩ : s = s' ∧ events = rest := by simpa using h
    exact Nat.lt_succ_self _
  | case3 s events ih => exact Nat.lt_succ_of_lt (ih h)
  | case4 => simp at h
  | case5 _ _ _ _ _ ih => exact Nat.lt_succ_of_lt (ih h)
  | case6 => simp at h
  | case7 => simp at h
  | case8 _ _ _ _ _ _ hpass ih =>
    exact Nat.lt_succ_of_lt (Nat.lt_trans (ih h) (length_of_passOver hpass))

theorem length_of_readStruct {ending : Ending} {tag : Tag} {s : StructDecl}
    {events rest : List Event} (h : readStruct ending tag events = .ok (s, rest)) :
    rest.length < events.length := by
  unfold readStruct at h
  split at h
  · simp at h
  · exact length_of_readFields h

/-! ## Namespaces -/

/-- The namespace that the attributes of an element declare, without types. -/
def namespaceOfTag (tag : Tag) : Except ReadError NamespaceDecl := do
  let name ← requireAttribute tag "Namespace" "Name"
  return .ofNames name ((tag.value? "ApiName").getD name)

/-- The namespace with the interface or the enum that an element inside it
declares, if the element declares one. -/
def addNamedType (space : NamespaceDecl) (tag : Tag) : Except ReadError NamespaceDecl :=
  if tag.name = "Interface" then
    (requireAttribute tag "Interface" "Name").map space.addInterface
  else if tag.name = "Enum" then
    (requireAttribute tag "Enum" "Name").map space.addEnum
  else .ok space

/-- The namespace with the type that an element without content declares, if the
element declares one. -/
def addChildlessType (space : NamespaceDecl) (tag : Tag) : Except ReadError NamespaceDecl :=
  if tag.name = "Struct" then (structOfTag tag).map space.addStruct
  else addNamedType space tag

set_option linter.unusedVariables false in
/-- Reads the types of a namespace up to its end tag. -/
def readTypes (ending : Ending) (space : NamespaceDecl) :
    List Event → Except ReadError (NamespaceDecl × List Event)
  | [] => .error (.ofEnding ending (unterminated "Namespace" space.name))
  | .closed :: events => .ok (space, events)
  | .aside :: events => readTypes ending space events
  | .childless tag :: events =>
    match addChildlessType space tag with
    | .error e => .error e
    | .ok space' => readTypes ending space' events
  | .opened tag :: events =>
    if tag.name = "Struct" then
      match hrest : readStruct ending tag events with
      | .error e => .error e
      | .ok (s, rest) => readTypes ending (space.addStruct s) rest
    else
      match addNamedType space tag with
      | .error e => .error e
      | .ok space' =>
        match hrest : passOver ending events with
        | .error e => .error e
        | .ok rest => readTypes ending space' rest
termination_by events => events.length
decreasing_by
  · exact Nat.lt_succ_self _
  · exact Nat.lt_succ_self _
  · exact Nat.lt_succ_of_lt (length_of_readStruct hrest)
  · exact Nat.lt_succ_of_lt (length_of_passOver hrest)

/-- An element inside a namespace is read if it is a struct; any other may declare
a type, and is passed over. -/
theorem readTypes_opened (ending : Ending) (space : NamespaceDecl) (tag : Tag)
    (events : List Event) :
    readTypes ending space (.opened tag :: events) =
      if tag.name = "Struct" then
        match readStruct ending tag events with
        | .error e => .error e
        | .ok (s, rest) => readTypes ending (space.addStruct s) rest
      else
        match addNamedType space tag with
        | .error e => .error e
        | .ok space' =>
          match passOver ending events with
          | .error e => .error e
          | .ok rest => readTypes ending space' rest := by
  rw [readTypes]
  split
  · split <;> simp_all
  · cases addNamedType space tag with
    | error e => rfl
    | ok space' =>
      dsimp only
      split <;> simp_all

/-- Reads a namespace whose start tag was just read. -/
def readNamespace (ending : Ending) (tag : Tag) (events : List Event) :
    Except ReadError (NamespaceDecl × List Event) :=
  match namespaceOfTag tag with
  | .error e => .error e
  | .ok space => readTypes ending space events

theorem length_of_readTypes {ending : Ending} {space space' : NamespaceDecl}
    {events rest : List Event}
    (h : readTypes ending space events = .ok (space', rest)) :
    rest.length < events.length := by
  fun_induction readTypes ending space events with
  | case1 | case4 | case6 | case8 | case9 => simp at h
  | case2 space events =>
    obtain ⟨-, rfl⟩ : space = space' ∧ events = rest := by simpa using h
    exact Nat.lt_succ_self _
  | case3 _ _ ih => exact Nat.lt_succ_of_lt (ih h)
  | case5 _ _ _ _ _ ih => exact Nat.lt_succ_of_lt (ih h)
  | case7 _ _ _ _ _ _ hread ih =>
    exact Nat.lt_succ_of_lt (Nat.lt_trans (ih h) (length_of_readStruct hread))
  | case10 _ _ _ _ _ _ _ hpass ih =>
    exact Nat.lt_succ_of_lt (Nat.lt_trans (ih h) (length_of_passOver hpass))

theorem length_of_readNamespace {ending : Ending} {tag : Tag} {space : NamespaceDecl}
    {events rest : List Event} (h : readNamespace ending tag events = .ok (space, rest)) :
    rest.length < events.length := by
  unfold readNamespace at h
  split at h
  · simp at h
  · exact length_of_readTypes h

/-! ## Schemas -/

/-- The schema under construction, if the root element was met. -/
def requireSchema : Option Schema → Except ReadError Schema
  | some schema => .ok schema
  | none => .error (.invalidStructure (outsideRoot "declaration" "Settings"))

/-- The name that the element of a primitive declares. -/
def primitiveOfTag (tag : Tag) : Except ReadError String :=
  requireAttribute tag "Primitive" "Name"

/-- Adds what was read to the schema under construction. -/
def extend {α : Type} (add : Schema → α → Schema) (schema : Option Schema)
    (read : Except ReadError α) : Except ReadError (Option Schema) := do
  let declared ← read
  let schema ← requireSchema schema
  return some (add schema declared)

/-- The schema with what an element without content declares, if the element
declares something. -/
def addChildless (schema : Option Schema) (tag : Tag) : Except ReadError (Option Schema) :=
  if tag.name = "Settings" then .ok (some .empty)
  else if tag.name = "Primitive" then extend Schema.addPrimitive schema (primitiveOfTag tag)
  else if tag.name = "Struct" then extend Schema.addStruct schema (structOfTag tag)
  else if tag.name = "Namespace" then extend Schema.addNamespace schema (namespaceOfTag tag)
  else .ok schema

set_option linter.unusedVariables false in
/-- Reads the declarations of a schema up to the end of the document.  A root
element starts a schema anew; before the first one, elements that mean nothing
are entered and not passed over. -/
def readDeclarations (ending : Ending) (schema : Option Schema) :
    List Event → Except ReadError Schema
  | [] =>
    match ending, schema with
    | .complete, some schema => .ok schema
    | _, _ => .error (.ofEnding ending (rootMissing "Settings"))
  | .closed :: events => readDeclarations ending schema events
  | .aside :: events => readDeclarations ending schema events
  | .childless tag :: events =>
    match addChildless schema tag with
    | .error e => .error e
    | .ok schema' => readDeclarations ending schema' events
  | .opened tag :: events =>
    if tag.name = "Settings" then readDeclarations ending (some .empty) events
    else if tag.name = "Struct" then
      match hrest : readStruct ending tag events with
      | .error e => .error e
      | .ok (s, rest) =>
        match extend Schema.addStruct schema (.ok s) with
        | .error e => .error e
        | .ok schema' => readDeclarations ending schema' rest
    else if tag.name = "Namespace" then
      match hrest : readNamespace ending tag events with
      | .error e => .error e
      | .ok (space, rest) =>
        match extend Schema.addNamespace schema (.ok space) with
        | .error e => .error e
        | .ok schema' => readDeclarations ending schema' rest
    else if tag.name = "Primitive" then
      match extend Schema.addPrimitive schema (primitiveOfTag tag) with
      | .error e => .error e
      | .ok schema' =>
        match hrest : passOver ending events with
        | .error e => .error e
        | .ok rest => readDeclarations ending schema' rest
    else if schema.isNone then readDeclarations ending schema events
    else
      match hrest : passOver ending events with
      | .error e => .error e
      | .ok rest => readDeclarations ending schema rest
termination_by events => events.length
decreasing_by
  all_goals try exact Nat.lt_succ_self _
  · exact Nat.lt_succ_of_lt (length_of_readStruct hrest)
  · exact Nat.lt_succ_of_lt (length_of_readNamespace hrest)
  · exact Nat.lt_succ_of_lt (length_of_passOver hrest)
  · exact Nat.lt_succ_of_lt (length_of_passOver hrest)

/-- What an element with content does to a schema depends on its name. -/
theorem readDeclarations_opened (ending : Ending) (schema : Option Schema) (tag : Tag)
    (events : List Event) :
    readDeclarations ending schema (.opened tag :: events) =
      if tag.name = "Settings" then readDeclarations ending (some .empty) events
      else if tag.name = "Struct" then
        match readStruct ending tag events with
        | .error e => .error e
        | .ok (s, rest) =>
          match extend Schema.addStruct schema (.ok s) with
          | .error e => .error e
          | .ok schema' => readDeclarations ending schema' rest
      else if tag.name = "Namespace" then
        match readNamespace ending tag events with
        | .error e => .error e
        | .ok (space, rest) =>
          match extend Schema.addNamespace schema (.ok space) with
          | .error e => .error e
          | .ok schema' => readDeclarations ending schema' rest
      else if tag.name = "Primitive" then
        match extend Schema.addPrimitive schema (primitiveOfTag tag) with
        | .error e => .error e
        | .ok schema' =>
          match passOver ending events with
          | .error e => .error e
          | .ok rest => readDeclarations ending schema' rest
      else if schema.isNone then readDeclarations ending schema events
      else
        match passOver ending events with
        | .error e => .error e
        | .ok rest => readDeclarations ending schema rest := by
  rw [readDeclarations]
  split
  · rfl
  · split
    · split <;> simp_all
    · split
      · split <;> simp_all
      · split
        · cases extend Schema.addPrimitive schema (primitiveOfTag tag) with
          | error e => rfl
          | ok schema' =>
            dsimp only
            split <;> simp_all
        · split
          · rfl
          · split <;> simp_all

/-- Reads a type schema. -/
def readSchema (text : String) : Except ReadError Schema :=
  let reading := Markup.Reading.ofText text
  readDeclarations reading.ending none reading.events

end TypeProjection
