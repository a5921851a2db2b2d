/-
  Override/Reader.lean --- reading an override document.

  The document has overrides of primitives and structs directly in its root, and
  overrides of structs, interfaces and enums in the namespaces of its root.
-/
import TypeProjection.Override.Record
import TypeProjection.Schema.Reader

set_option autoImplicit false

namespace TypeProjection

open Markup (Ending Event Tag)

/-! ## Single overrides -/

/-- The key of an override: its name, qualified by the namespace it stands
in. -/
def overrideKey (space : Option String) (name : String) : String :=
  match space with
  | some space => qualify space name
  | none => name

/-- The truth value that a text stands for. -/
def readFlag? (text : String) : Option Bool :=
  if text = "true" ∨ text = "1" then some true
  else if text = "false" ∨ text = "0" then some false
  else none

/-- Whether the element of a struct override asks for projection; it does not if
it is silent. -/
def shouldProjectOfTag (tag : Tag) : Except ReadError Bool :=
  match tag.value? "ShouldProject" with
  | none => .ok false
  | some text =>
    match readFlag? text with
    | some flag => .ok flag
    | none => .error (.invalidAttribute "Struct" "ShouldProject" text)

/-- The name and the record that the element of a struct override gives. -/
def structOverrideOfTag (tag : Tag) : Except ReadError (String × StructOverride) := do
  let shouldProject ← shouldProjectOfTag tag
  let name ← requireAttribute tag "Struct" "Name"
  return (name,
    { guid := tag.value? "Guid"
      rename := tag.value? "ProjectedNameOverride"
      shouldProject
      qualifier := tag.value? "IdlNamespaceQualifier" })

/-- The name and the record that the element of any other override gives. -/
def typeOverrideOfTag (tag : Tag) : Except ReadError (String × TypeOverride) := do
  let name ← requireAttribute tag tag.name "Name"
  return (name,
    { rename := tag.value? "ProjectedNameOverride"
      qualifier := tag.value? "IdlNamespaceQualifier" })

/-- Adds the struct override that an element in a namespace, or in none,
gives. -/
def addStructOfTag (space : Option String) (overrides : Overrides) (tag : Tag) :
    Except ReadError Overrides := do
  let (name, record) ← structOverrideOfTag tag
  overrides.addStruct (overrideKey space name) record

/-- Adds the override of another type that an element in a namespace, or in none,
gives. -/
def addTypeOfTag (space : Option String) (overrides : Overrides) (tag : Tag) :
    Except ReadError Overrides := do
  let (name, record) ← typeOverrideOfTag tag
  overrides.addType (overrideKey space name) record

/-! ## Namespaces -/

/-- Adds the override that an element in a namespace gives, if it gives one. -/
def addOverrideInNamespace (space : String) (overrides : Overrides) (tag : Tag) :
    Except ReadError Overrides :=
  if tag.name = "Struct" then addStructOfTag (some space) overrides tag
  else if tag.name = "Interface" ∨ tag.name = "Enum" then addTypeOfTag (some space) overrides tag
  else .ok overrides

set_option linter.unusedVariables false in
/-- Reads the overrides of a namespace up to its end tag. -/
def readNamespaceOverrides (ending : Ending) (space : String) (overrides : Overrides) :
    List Event → Except ReadError (Overrides × List Event)
  | [] => .error (.ofEnding ending (unterminated "Namespace" space))
  | .closed :: events => .ok (overrides, events)
  | .aside :: events => readNamespaceOverrides ending space overrides events
  | .childless tag :: events =>
    match addOverrideInNamespace space overrides tag with
    | .error e => .error e
    | .ok overrides' => readNamespaceOverrides ending space overrides' events
  | .opened tag :: events =>
    match addOverrideInNamespace space overrides tag with
    | .error e => .error e
    | .ok overrides' =>
      match hrest : passOver ending events with
      | .error e => .error e
      | .ok rest => readNamespaceOverrides ending space overrides' rest
termination_by events => events.length
decreasing_by
  · exact Nat.lt_succ_self _
  · exact Nat.lt_succ_self _
  · exact Nat.lt_succ_of_lt (length_of_passOver hrest)

/-- An element inside a namespace may give an override, and is passed over. -/
theorem readNamespaceOverrides_opened (ending : Ending) (space : String)
    (overrides : Overrides) (tag : Tag) (events : List Event) :
    readNamespaceOverrides ending space overrides (.opened tag :: events) =
      match addOverrideInNamespace space overrides tag with
      | .error e => .error e
      | .ok overrides' =>
        match passOver ending events with
        | .error e => .error e
        | .ok rest => readNamespaceOverrides ending space overrides' rest := by
  rw [readNamespaceOverrides]
  cases addOverrideInNamespace space overrides tag with
  | error e => rfl
  | ok overrides' =>
    dsimp only
    split <;> simp_all

theorem length_of_readNamespaceOverrides {ending : Ending} {space : String}
    {overrides overrides' : Overrides} {events rest : List Event}
    (h : readNamespaceOverrides ending space overrides events = .ok (overrides', rest)) :
    rest.length < events.length := by
  fun_induction readNamespaceOverrides ending space overrides events with
  | case1 | case4 | case6 | case7 => simp at h
  | case2 overrides events =>
    obtain ⟨-, rfl⟩ : overrides = overrides' ∧ events = rest := by simpa using h
    exact Nat.lt_succ_self _
  | case3 _ _ ih => exact Nat.lt_succ_of_lt (ih h)
  | case5 _ _ _ _ _ ih => exact Nat.lt_succ_of_lt (ih h)
  | case8 _ _ _ _ _ _ hpass ih =>
    exact Nat.lt_succ_of_lt (Nat.lt_trans (ih h) (length_of_passOver hpass))

/-! ## Documents -/

/-- The overrides under construction, if the root element was met. -/
def requireOverrides : Option Overrides → Except ReadError Overrides
  | some overrides => .ok overrides
  | none => .error (.invalidStructure (outsideRoot "override" "Overrides"))

/-- Adds the override that an element directly in the root gives, if it gives
one.  The element itself is looked at before the place where it stands. -/
def addOverrideInRoot (overrides : Option Overrides) (tag : Tag) :
    Except ReadError (Option Overrides) := do
  if tag.name = "Struct" then
    let (name, record) ← structOverrideOfTag tag
    let overrides ← requireOverrides overrides
    return some (← overrides.addStruct (overrideKey none name) record)
  else if tag.name = "Primitive" then
    let (name, record) ← typeOverrideOfTag tag
    let overrides ← requireOverrides overrides
    return some (← overrides.addType (overrideKey none name) record)
  else return overrides

/-- Reads the overrides of a namespace whose start tag was just read.  The place
where the element stands is looked at before the element itself. -/
def readNamespaceInRoot (ending : Ending) (overrides : Option Overrides) (tag : Tag)
    (events : List Event) : Except ReadError (Overrides × List Event) :=
  match requireOverrides overrides with
  | .error e => .error e
  | .ok overrides =>
    match requireAttribute tag "Namespace" "Name" with
    | .error e => .error e
    | .ok space => readNamespaceOverrides ending space overrides events

theorem length_of_readNamespaceInRoot {ending : Ending} {overrides : Option Overrides}
    {tag : Tag} {overrides' : Overrides} {events rest : List Event}
    (h : readNamespaceInRoot ending overrides tag events = .ok (overrides', rest)) :
    rest.length < events.length := by
  unfold readNamespaceInRoot at h
  split at h
  · simp at h
  · split at h
    · simp at h
    · exact length_of_readNamespaceOverrides h

/-- The overrides with what an element without content directly in the root
gives.  A namespace without content gives nothing. -/
def addChildlessOverride (overrides : Option Overrides) (tag : Tag) :
    Except ReadError (Option Overrides) :=
  if tag.name = "Overrides" then .ok (some .empty)
  else addOverrideInRoot overrides tag

set_option linter.unusedVariables false in
/-- Reads overrides up to the end of the document.  A root element starts them
anew; before the first one, elements that mean nothing are entered and not
passed over. -/
def readOverrideElements (ending : Ending) (overrides : Option Overrides) :
    List Event → Except ReadError Overrides
  | [] =>
    match ending, overrides with
    | .complete, some overrides => .ok overrides
    | _, _ => .error (.ofEnding ending (rootMissing "Overrides"))
  | .closed :: events => readOverrideElements ending overrides events
  | .aside :: events => readOverrideElements ending overrides events
  | .childless tag :: events =>
    match addChildlessOverride overrides tag with
    | .error e => .error e
    | .ok overrides' => readOverrideElements ending overrides' events
  | .opened tag :: events =>
    if tag.name = "Overrides" then readOverrideElements ending (some .empty) events
    else if tag.name = "Namespace" then
      match hrest : readNamespaceInRoot ending overrides tag events with
      | .error e => .error e
      | .ok (overrides', rest) => readOverrideElements ending (some overrides') rest
    else
      match addOverrideInRoot overrides tag with
      | .error e => .error e
      | .ok none => readOverrideElements ending none events
      | .ok (some overrides') =>
        match hrest : passOver ending events with
        | .error e => .error e
        | .ok rest => readOverrideElements ending (some overrides') rest
termination_by events => events.length
decreasing_by
  all_goals try exact Nat.lt_succ_self _
  · exact Nat.lt_succ_of_lt (length_of_readNamespaceInRoot hrest)
  · exact Nat.lt_succ_of_lt (length_of_passOver hrest)

/-- What an element with content does to the overrides depends on its name. -/
theorem readOverrideElements_opened (ending : Ending) (overrides : Option Overrides)
    (tag : Tag) (events : List Event) :
    readOverrideElements ending overrides (.opened tag :: events) =
      if tag.name = "Overrides" then readOverrideElements ending (some .empty) events
      else if tag.name = "Namespace" then
        match readNamespaceInRoot ending overrides tag events with
        | .error e => .error e
        | .ok (overrides', rest) => readOverrideElements ending (some overrides') rest
      else
        match addOverrideInRoot overrides tag with
        | .error e => .error e
        | .ok none => readOverrideElements ending none events
        | .ok (some overrides') =>
          match passOver ending events with
          | .error e => .error e
          | .ok rest => readOverrideElements ending (some overrides') rest := by
  rw [readOverrideElements]
  split
  · rfl
  · split
    · split <;> simp_all
    · cases addOverrideInRoot overrides tag with
      | error e => rfl
      | ok o =>
        cases o with
        | none => rfl
        | some overrides' =>
          dsimp only
          split <;> simp_all

/-- Reads an override document. -/
def readOverrides (text : String) : Except ReadError Overrides :=
  let reading := Markup.Reading.ofText text
  readOverrideElements reading.ending none reading.events

end TypeProjection
