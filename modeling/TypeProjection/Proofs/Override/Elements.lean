/-
  Proofs/Override/Elements.lean --- overrides are read element by element.

  An element that gives an override stands directly in the root or in a namespace
  of the root.  Both places are read in their own way, but what is done is the
  same: the overrides of all these elements are added in the order of the document.
-/
import TypeProjection.Override.Reader
import TypeProjection.Proofs.Schema.Elements

set_option autoImplicit false

namespace TypeProjection

open Markup (Element Ending Event Spells Tag Written)

/-! ## Elements that give overrides -/

/-- An element that gives an override, with the namespace it stands in. -/
structure OverrideSite where
  /-- The namespace, unless the element stands directly in the root. -/
  space : Option String
  /-- The tag of the element. -/
  tag : Tag

/-- The override of a struct; any other is of another type. -/
def OverrideSite.IsStruct (site : OverrideSite) : Prop :=
  site.tag.name = "Struct"

instance (site : OverrideSite) : Decidable site.IsStruct :=
  inferInstanceAs (Decidable (_ = _))

/-- The override that an element gives, if it is of a kind that gives one where it
stands. -/
def siteOf (space : Option String) (kinds : List String) (child : Element) : List OverrideSite :=
  if child.tag.name ∈ kinds then [⟨space, child.tag⟩] else []

/-- The overrides that the elements in a namespace give: structs, interfaces and
enums. -/
def sitesInNamespace (space : String) (children : List Element) : List OverrideSite :=
  children.flatMap (siteOf (some space) ["Struct", "Interface", "Enum"])

/-- The overrides that an element directly in the root gives: primitives and structs
give their own, namespaces those inside them. -/
def sitesInRoot (child : Element) : List OverrideSite :=
  if child.tag.name = "Namespace" then
    match child.tag.value? "Name" with
    | some space => sitesInNamespace space child.children
    | none => []
  else siteOf none ["Primitive", "Struct"] child

/-- All elements of a document that give overrides, in its order. -/
def overrideSites (root : Element) : List OverrideSite :=
  root.children.flatMap sitesInRoot

/-- The overrides with the one that an element gives. -/
def Overrides.addSite (overrides : Overrides) (site : OverrideSite) :
    Except ReadError Overrides :=
  if site.IsStruct then addStructOfTag site.space overrides site.tag
  else addTypeOfTag site.space overrides site.tag

theorem foldlM_siteOf_of_mem {space : Option String} {kinds : List String} {child : Element}
    (h : child.tag.name ∈ kinds) (overrides : Overrides) :
    (siteOf space kinds child).foldlM Overrides.addSite overrides =
      overrides.addSite ⟨space, child.tag⟩ := by
  rw [siteOf, if_pos h, List.foldlM_cons]
  exact bind_pure _

theorem siteOf_of_notMem {space : Option String} {kinds : List String} {child : Element}
    (h : child.tag.name ∉ kinds) : siteOf space kinds child = [] := by
  rw [siteOf, if_neg h]

/-! ## Order of attributes -/

section Reordering

variable {tag tag' : Tag} (h : tag.Reorders tag')

include h

theorem structOverrideOfTag_reorders : structOverrideOfTag tag' = structOverrideOfTag tag := by
  simp only [structOverrideOfTag, shouldProjectOfTag, requireAttribute_reorders h, h.value?_eq]

theorem typeOverrideOfTag_reorders : typeOverrideOfTag tag' = typeOverrideOfTag tag := by
  simp only [typeOverrideOfTag, requireAttribute_reorders h, h.value?_eq, h.name]

theorem addOverrideInNamespace_reorders (space : String) (overrides : Overrides) :
    addOverrideInNamespace space overrides tag' = addOverrideInNamespace space overrides tag := by
  simp only [addOverrideInNamespace, addStructOfTag, addTypeOfTag, structOverrideOfTag_reorders h,
    typeOverrideOfTag_reorders h, h.name]

theorem addOverrideInRoot_reorders (overrides : Option Overrides) :
    addOverrideInRoot overrides tag' = addOverrideInRoot overrides tag := by
  simp only [addOverrideInRoot, structOverrideOfTag_reorders h, typeOverrideOfTag_reorders h,
    h.name]

end Reordering

/-! ## Namespaces -/

/-- An element in a namespace gives its own override, or none. -/
theorem addOverrideInNamespace_eq (space : String) (overrides : Overrides) (child : Element) :
    addOverrideInNamespace space overrides child.tag =
      (siteOf (some space) ["Struct", "Interface", "Enum"] child).foldlM Overrides.addSite
        overrides := by
  unfold addOverrideInNamespace
  by_cases hstruct : child.tag.name = "Struct"
  · rw [if_pos hstruct, foldlM_siteOf_of_mem (by simp [hstruct]), Overrides.addSite]
    exact (if_pos hstruct).symm
  · by_cases hother : child.tag.name = "Interface" ∨ child.tag.name = "Enum"
    · rw [if_neg hstruct, if_pos hother, foldlM_siteOf_of_mem (by simp [hother]),
        Overrides.addSite]
      exact (if_neg hstruct).symm
    · rw [if_neg hstruct, if_neg hother, siteOf_of_notMem (by simp [hstruct, hother])]
      rfl

/-- The overrides of a namespace are read from the elements inside it, one by
one. -/
theorem readNamespaceOverrides_of_spells {children : List Element} {events : List Event}
    (h : Spells children events) (ending : Ending) (space : String) (overrides : Overrides)
    (rest : List Event) :
    readNamespaceOverrides ending space overrides (events ++ .closed :: rest) =
      ((sitesInNamespace space children).foldlM Overrides.addSite overrides).map (·, rest) := by
  unfold sitesInNamespace
  induction h generalizing overrides with
  | nil =>
    rw [List.nil_append, readNamespaceOverrides]
    rfl
  | aside h ih => rw [List.cons_append, readNamespaceOverrides, ih]
  | @single tag tag' elements events htag h ih =>
    rw [List.cons_append, readNamespaceOverrides, addOverrideInNamespace_reorders htag,
      addOverrideInNamespace_eq space overrides ⟨tag, []⟩, List.flatMap_cons, List.foldlM_append]
    cases (siteOf _ _ (Element.mk tag [])).foldlM Overrides.addSite overrides with
    | error e => rfl
    | ok overrides' => exact ih overrides'
  | @pair tag tag' children elements inner events htag hinner h _ ih =>
    rw [List.cons_append, readNamespaceOverrides_opened, List.append_assoc, List.cons_append,
      passOver_of_spells hinner, addOverrideInNamespace_reorders htag,
      addOverrideInNamespace_eq space overrides ⟨tag, children⟩, List.flatMap_cons,
      List.foldlM_append]
    cases (siteOf _ _ (Element.mk tag children)).foldlM Overrides.addSite overrides with
    | error e => rfl
    | ok overrides' => exact ih overrides'

/-! ## Documents -/

/-- An element directly in the root that is no namespace gives its own override, or
none. -/
theorem addOverrideInRoot_eq (overrides : Overrides) (child : Element) :
    addOverrideInRoot (some overrides) child.tag =
      ((siteOf none ["Primitive", "Struct"] child).foldlM Overrides.addSite overrides).map
        some := by
  unfold addOverrideInRoot
  by_cases hstruct : child.tag.name = "Struct"
  · have hsite : overrides.addSite ⟨none, child.tag⟩ = addStructOfTag none overrides child.tag :=
      if_pos hstruct
    rw [if_pos hstruct, foldlM_siteOf_of_mem (by simp [hstruct]), hsite, addStructOfTag]
    cases structOverrideOfTag child.tag <;> rfl
  · have hsite : overrides.addSite ⟨none, child.tag⟩ = addTypeOfTag none overrides child.tag :=
      if_neg hstruct
    by_cases hprimitive : child.tag.name = "Primitive"
    · rw [if_neg hstruct, if_pos hprimitive, foldlM_siteOf_of_mem (by simp [hprimitive]), hsite,
        addTypeOfTag]
      cases typeOverrideOfTag child.tag <;> rfl
    · rw [if_neg hstruct, if_neg hprimitive, siteOf_of_notMem (by simp [hstruct, hprimitive])]
      rfl

/-- The name of an element that is no namespace decides what it gives. -/
theorem sitesInRoot_of_ne {child : Element} (h : child.tag.name ≠ "Namespace") :
    sitesInRoot child = siteOf none ["Primitive", "Struct"] child := by
  rw [sitesInRoot, if_neg h]

/-- Inside the root, overrides are read from the elements, one by one. -/
theorem readOverrideElements_of_spells {children : List Element} {events : List Event}
    (h : Spells children events) (hroot : ∀ child ∈ children, child.tag.name ≠ "Overrides")
    (hspaces : ∀ child ∈ children, child.tag.name = "Namespace" →
      child.tag.value? "Name" ≠ none)
    (ending : Ending) (overrides : Overrides) (rest : List Event) :
    readOverrideElements ending (some overrides) (events ++ rest) =
      (children.flatMap sitesInRoot).foldlM Overrides.addSite overrides >>= fun overrides' =>
        readOverrideElements ending (some overrides') rest := by
  induction h generalizing overrides rest with
  | nil => rfl
  | aside h ih => rw [List.cons_append, readOverrideElements, ih hroot hspaces]
  | @single tag tag' elements events htag h ih =>
    rw [List.forall_mem_cons] at hroot hspaces
    rw [List.cons_append, readOverrideElements, addChildlessOverride, htag.name, if_neg hroot.1,
      addOverrideInRoot_reorders htag, addOverrideInRoot_eq overrides ⟨tag, []⟩,
      List.flatMap_cons, List.foldlM_append]
    -- a namespace without content is passed over, and nothing is inside it
    by_cases hspace : tag.name = "Namespace"
    · have hnone : siteOf none ["Primitive", "Struct"] ⟨tag, []⟩ = [] :=
        siteOf_of_notMem (by simp [hspace])
      have hinside : sitesInRoot ⟨tag, []⟩ = [] := by
        rw [sitesInRoot, if_pos hspace]
        cases tag.value? "Name" <;> rfl
      rw [hnone, hinside]
      exact ih hroot.2 hspaces.2 overrides rest
    · rw [sitesInRoot_of_ne hspace]
      cases (siteOf _ _ (Element.mk tag [])).foldlM Overrides.addSite overrides with
      | error e => rfl
      | ok overrides' => exact ih hroot.2 hspaces.2 overrides' rest
  | @pair tag tag' children elements inner events htag hinner h _ ih =>
    rw [List.forall_mem_cons] at hroot hspaces
    rw [List.cons_append, readOverrideElements_opened, List.append_assoc, List.cons_append,
      passOver_of_spells hinner, htag.name, if_neg hroot.1, addOverrideInRoot_reorders htag,
      addOverrideInRoot_eq overrides ⟨tag, children⟩, List.flatMap_cons, List.foldlM_append]
    by_cases hspace : tag.name = "Namespace"
    · obtain ⟨space, hvalue⟩ := Option.ne_none_iff_exists'.1 (hspaces.1 hspace)
      have hinside : sitesInRoot ⟨tag, children⟩ = sitesInNamespace space children := by
        simp only [sitesInRoot, hspace, hvalue, if_true]
      rw [if_pos hspace, hinside, readNamespaceInRoot, requireOverrides, requireAttribute,
        htag.value?_eq, hvalue]
      dsimp only
      rw [readNamespaceOverrides_of_spells hinner]
      cases (sitesInNamespace space children).foldlM Overrides.addSite overrides with
      | error e => rfl
      | ok overrides' => exact ih hroot.2 hspaces.2 overrides' rest
    · rw [if_neg hspace, sitesInRoot_of_ne hspace]
      cases (siteOf _ _ (Element.mk tag children)).foldlM Overrides.addSite overrides with
      | error e => rfl
      | ok overrides' => exact ih hroot.2 hspaces.2 overrides' rest

/-- Behind the root element nothing changes any more. -/
theorem readOverrideElements_behind_root {events : List Event} (h : Spells [] events)
    (overrides : Overrides) :
    readOverrideElements .complete (some overrides) events = .ok overrides := by
  have hread := readOverrideElements_of_spells h (by simp) (by simp) .complete overrides []
  rw [List.append_nil] at hread
  rw [hread]
  show readOverrideElements .complete (some overrides) [] = .ok overrides
  rw [readOverrideElements]

/-- A text in which an override document with a root element is written. -/
structure WrittenOverrides (root : Element) (text : String) : Prop where
  /-- The text is a written form of the root element. -/
  written : Written [root] text.toList
  /-- The root element is one of overrides. -/
  name : root.tag.name = "Overrides"
  /-- No element directly in it is one again. -/
  nested : ∀ child ∈ root.children, child.tag.name ≠ "Overrides"
  /-- The namespaces have names. -/
  spaces : ∀ child ∈ root.children, child.tag.name = "Namespace" →
    child.tag.value? "Name" ≠ none

/-- However the tree of an override document is written, the overrides of its
elements are added one by one. -/
theorem readOverrides_of_written {root : Element} {text : String}
    (h : WrittenOverrides root text) :
    readOverrides text = (overrideSites root).foldlM Overrides.addSite .empty := by
  obtain ⟨events, hspells, hread⟩ := Markup.ofText_of_written h.written
  rw [readOverrides, hread]
  show readOverrideElements .complete none events = _
  clear hread
  generalize heq : [root] = elements at hspells
  induction hspells with
  | nil => simp at heq
  | aside _ ih => rw [readOverrideElements, ih heq]
  | @single tag tag' elements events htag hbehind _ =>
    obtain ⟨rfl, rfl⟩ := List.cons.inj heq
    have hempty : addChildlessOverride none tag' = .ok (some .empty) := by
      rw [addChildlessOverride, htag.name, if_pos h.name]
    rw [readOverrideElements, hempty]
    exact readOverrideElements_behind_root hbehind .empty
  | @pair tag tag' children elements inner events htag hinner hbehind _ _ =>
    obtain ⟨rfl, rfl⟩ := List.cons.inj heq
    rw [readOverrideElements_opened, htag.name, if_pos h.name,
      readOverrideElements_of_spells hinner h.nested h.spaces, overrideSites]
    cases (children.flatMap sitesInRoot).foldlM Overrides.addSite .empty with
    | error e => rfl
    | ok overrides =>
      show readOverrideElements .complete (some overrides) (.closed :: events) = .ok overrides
      rw [readOverrideElements]
      exact readOverrideElements_behind_root hbehind overrides

end TypeProjection
