/-
  Proofs/Document/Landmarks.lean --- the elements of a document that matter.

  In a schema, elements declare types; in an override document, elements of the same
  names give overrides.  Which elements are looked at is told here from the events
  alone, with a stack of the places that are open: root elements, the elements directly
  in a root, and those in a namespace of the root.  A document may have any number of
  root elements, and its elements fall into the parts that these begin.
-/
import TypeProjection.Proofs.Markup.Nesting
import TypeProjection.Proofs.Override.Elements

set_option autoImplicit false

namespace TypeProjection

open Markup (EndsBefore Event Tag)

/-! ## Places -/

/-- Where elements stand. -/
inductive Place where
  /-- directly in the root -/
  | root
  /-- in a namespace of the root, with the name that its tag gives -/
  | space (name : Option String)
  /-- in an element whose content does not matter -/
  | ignored

namespace Place

/-- The elements at a place that matter have one of these names; they are told like
the overrides of the types that they declare. -/
def sites : Place → Tag → List OverrideSite
  | .root, tag => siteOf none ["Primitive", "Struct"] ⟨tag, []⟩
  | .space name, tag => siteOf name ["Struct", "Interface", "Enum"] ⟨tag, []⟩
  | .ignored, _ => []

/-- The place inside an element. -/
def inside : Place → Tag → Place
  | .root, tag => if tag.name = "Namespace" then .space (tag.value? "Name") else .ignored
  | .space _, _ => .ignored
  | .ignored, _ => .ignored

variable {tag : Tag}

theorem sites_root_of_mem (h : tag.name ∈ ["Primitive", "Struct"]) :
    root.sites tag = [⟨none, tag⟩] :=
  if_pos h

theorem sites_root_of_notMem (h : tag.name ∉ ["Primitive", "Struct"]) : root.sites tag = [] :=
  if_neg h

theorem sites_space_of_mem (h : tag.name ∈ ["Struct", "Interface", "Enum"])
    (name : Option String) : (space name).sites tag = [⟨name, tag⟩] :=
  if_pos h

theorem sites_space_of_notMem (h : tag.name ∉ ["Struct", "Interface", "Enum"])
    (name : Option String) : (space name).sites tag = [] :=
  if_neg h

theorem inside_root_of_space (h : tag.name = "Namespace") :
    root.inside tag = space (tag.value? "Name") :=
  if_pos h

theorem inside_root_of_ne (h : tag.name ≠ "Namespace") : root.inside tag = ignored :=
  if_neg h

end Place

/-- An element at a place ends in some events, and the elements inside it that
matter are the given ones. -/
inductive Encloses (place : Place) :
    (events : List Event) → (sites : List OverrideSite) → (rest : List Event) → Prop where
  /-- here is its end tag -/
  | closed {rest : List Event} : Encloses place (.closed :: rest) [] rest
  /-- something that is no element -/
  | aside {events rest : List Event} {sites : List OverrideSite}
    (h : Encloses place events sites rest) : Encloses place (.aside :: events) sites rest
  /-- an element without content inside it -/
  | childless {tag : Tag} {events rest : List Event} {sites : List OverrideSite}
    (h : Encloses place events sites rest) :
    Encloses place (.childless tag :: events) (place.sites tag ++ sites) rest
  /-- an element inside it whose content does not matter -/
  | opened {tag : Tag} {events behind rest : List Event} {sites : List OverrideSite}
    (hignored : place.inside tag = .ignored) (hinner : EndsBefore events behind)
    (h : Encloses place behind sites rest) :
    Encloses place (.opened tag :: events) (place.sites tag ++ sites) rest

namespace Encloses

variable {place : Place} {events rest : List Event} {sites : List OverrideSite}

theorem endsBefore (h : Encloses place events sites rest) : EndsBefore events rest := by
  induction h with
  | closed => exact .closed
  | aside _ ih => exact .aside ih
  | childless _ ih => exact .childless ih
  | opened _ hinner _ ih => exact .opened hinner ih

/-- In an element whose content does not matter nothing does. -/
theorem of_endsBefore (h : EndsBefore events rest) : Encloses .ignored events [] rest := by
  induction h with
  | closed => exact .closed
  | aside _ ih => exact .aside ih
  | childless _ ih => exact .childless ih
  | opened hinner _ _ ih => exact .opened rfl hinner ih

end Encloses

/-! ## Landmarks -/

/-- What matters in a document. -/
inductive Landmark where
  /-- a root element begins -/
  | root
  /-- an element that declares a type or gives an override -/
  | member (site : OverrideSite)

/-- The landmarks of a document whose root elements have a given name.  The open
places are listed from the inside; without one, the elements stand directly in the
root, or in front of all roots.  There, elements that mean nothing are entered. -/
def landmarks (root : String) :
    (rooted : Bool) → (places : List Place) → List Event → List Landmark
  | _, _, [] => []
  | rooted, places, .aside :: events => landmarks root rooted places events
  | rooted, places, .closed :: events => landmarks root rooted places.tail events
  | rooted, place :: places, .childless tag :: events =>
    (place.sites tag).map .member ++ landmarks root rooted (place :: places) events
  | rooted, place :: places, .opened tag :: events =>
    (place.sites tag).map .member ++
      landmarks root rooted (place.inside tag :: place :: places) events
  | rooted, [], .childless tag :: events =>
    if tag.name = root then .root :: landmarks root true [] events
    else (Place.root.sites tag).map .member ++ landmarks root rooted [] events
  | rooted, [], .opened tag :: events =>
    if tag.name = root then .root :: landmarks root true [] events
    else if rooted = false ∧ tag.name ∉ ["Primitive", "Struct", "Namespace"] then
      landmarks root rooted [] events
    else (Place.root.sites tag).map .member ++
      landmarks root rooted [Place.root.inside tag] events

variable {root : String}

/-- Nothing in an element whose content does not matter is a landmark. -/
theorem landmarks_of_endsBefore {events rest : List Event} (h : EndsBefore events rest)
    (rooted : Bool) (places : List Place) :
    landmarks root rooted (.ignored :: places) events = landmarks root rooted places rest := by
  induction h generalizing places with
  | closed => rfl
  | aside _ ih => exact ih places
  | childless _ ih => exact ih places
  | opened _ _ ihinner ih => exact (ihinner (.ignored :: places)).trans (ih places)

/-- The landmarks in an element are the elements inside it that matter. -/
theorem landmarks_of_encloses {place : Place} {events rest : List Event}
    {sites : List OverrideSite} (h : Encloses place events sites rest) (rooted : Bool)
    (places : List Place) :
    landmarks root rooted (place :: places) events =
      sites.map .member ++ landmarks root rooted places rest := by
  induction h with
  | closed => rfl
  | aside _ ih => exact ih
  | childless _ ih => rw [landmarks, ih, List.map_append, List.append_assoc]
  | opened hignored hinner _ ih =>
    rw [landmarks, hignored, landmarks_of_endsBefore hinner, ih, List.map_append,
      List.append_assoc]

/-! ## Parts -/

/-- The elements that matter, in front of the first root and then behind each
root. -/
def partsOf : List Landmark → List (List OverrideSite)
  | [] => [[]]
  | .root :: marks => [] :: partsOf marks
  | .member site :: marks => (partsOf marks).modifyHead (site :: ·)

/-- The parts of a document. -/
def documentParts (root : String) (events : List Event) : List (List OverrideSite) :=
  partsOf (landmarks root false [] events)

theorem modifyHead_nil_append (parts : List (List OverrideSite)) :
    parts.modifyHead ([] ++ ·) = parts :=
  congrFun List.modifyHead_id parts

/-- Elements in front of all others belong to the first part. -/
theorem partsOf_append (sites : List OverrideSite) (marks : List Landmark) :
    partsOf (sites.map .member ++ marks) = (partsOf marks).modifyHead (sites ++ ·) := by
  induction sites with
  | nil => exact (modifyHead_nil_append _).symm
  | cons site sites ih =>
    rw [List.map_cons, List.cons_append, partsOf, ih, List.modifyHead_modifyHead]
    rfl

end TypeProjection
