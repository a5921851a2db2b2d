/-
  Proofs/Document/Override.lean --- the reader of overrides walks over its document.

  The overrides are what elements of the document give.  An element that is read gives
  its override behind those of the elements in front of it, or the document is refused,
  so reading a document that is accepted is a walk.
-/
import TypeProjection.Proofs.Document.Schema

set_option autoImplicit false

namespace TypeProjection

open Markup (Ending EndsBefore Event Tag)

namespace Overrides

/-- The overrides are those that acceptable elements give. -/
structure GivenBy (overrides : Overrides) (sites : List OverrideSite) : Prop where
  /-- The elements can be told apart. -/
  acceptable : Acceptable sites
  /-- The overrides are what they give. -/
  collects : overrides.Collects sites

theorem givenBy_empty : empty.GivenBy [] :=
  ⟨⟨by simp, by simp, .nil⟩, collects_empty⟩

/-! ## Elements that give overrides -/

variable {overrides overrides' : Overrides} {sites : List OverrideSite}

/-- An element whose override is added gives it behind the others. -/
theorem gains_of_addSite {site : OverrideSite} (h : overrides.addSite site = .ok overrides') :
    Gains GivenBy overrides [site] overrides' := by
  intro kept hkept
  rcases acceptable_concat_or_offends hkept.acceptable site with hall | ⟨e, hoffends⟩
  · obtain ⟨overrides'', hadd, hcollects⟩ := hkept.collects.addSite hall
    rw [h] at hadd
    obtain rfl := Except.ok.inj hadd
    exact ⟨hall, hcollects⟩
  · rw [hkept.collects.addSite_of_offends hoffends] at h
    cases h

/-- Elements whose overrides are added one by one give them behind the others. -/
theorem gains_of_foldlM (h : sites.foldlM addSite overrides = .ok overrides') :
    Gains GivenBy overrides sites overrides' := by
  induction sites generalizing overrides with
  | nil =>
    obtain rfl := Except.ok.inj h
    exact .refl overrides
  | cons site sites ih =>
    rw [List.foldlM_cons] at h
    obtain ⟨between, hadd, h⟩ := bind_eq_ok_iff.1 h
    exact (gains_of_addSite hadd).trans (ih h)

theorem gains_of_addOverrideInNamespace {space : String} {tag : Tag}
    (h : addOverrideInNamespace space overrides tag = .ok overrides') :
    Gains GivenBy overrides ((Place.space (some space)).sites tag) overrides' :=
  gains_of_foldlM ((addOverrideInNamespace_eq space overrides ⟨tag, []⟩).symm.trans h)

/-- An element directly in the root adds its override to the others; in front of all
roots it gives none. -/
theorem gains_of_addOverrideInRoot {state state' : Option Overrides} {tag : Tag}
    (h : addOverrideInRoot state tag = .ok state') :
    (state = none ∧ state' = none ∧ tag.name ∉ ["Primitive", "Struct"]) ∨
      ∃ overrides overrides', state = some overrides ∧ state' = some overrides' ∧
        Gains GivenBy overrides (Place.root.sites tag) overrides' := by
  cases state with
  | none =>
    unfold addOverrideInRoot at h
    split at h
    · obtain ⟨_, -, h⟩ := bind_eq_ok_iff.1 h
      cases h
    split at h
    · obtain ⟨_, -, h⟩ := bind_eq_ok_iff.1 h
      cases h
    · rename_i hstruct hprimitive
      obtain rfl := Except.ok.inj h
      exact .inl ⟨rfl, rfl, by simp [hstruct, hprimitive]⟩
  | some overrides =>
    rw [addOverrideInRoot_eq overrides ⟨tag, []⟩] at h
    obtain ⟨overrides', hfold, rfl⟩ := map_eq_ok_iff.1 h
    exact .inr ⟨overrides, overrides', rfl, rfl, gains_of_foldlM hfold⟩

/-! ## Namespaces -/

/-- The overrides of a namespace are read to its end tag from the elements inside
it. -/
theorem encloses_of_readNamespaceOverrides {ending : Ending} {space : String}
    {events rest : List Event}
    (h : readNamespaceOverrides ending space overrides events = .ok (overrides', rest)) :
    ∃ sites, Encloses (.space (some space)) events sites rest ∧
      Gains GivenBy overrides sites overrides' := by
  fun_induction readNamespaceOverrides ending space overrides events with
  | case1 | case4 | case6 | case7 => cases h
  | case2 =>
    cases h
    exact ⟨[], .closed, .refl _⟩
  | case3 overrides events ih =>
    obtain ⟨sites, hinside, hgains⟩ := ih h
    exact ⟨sites, .aside hinside, hgains⟩
  | case5 overrides tag events between hadd ih =>
    obtain ⟨sites, hinside, hgains⟩ := ih h
    exact ⟨_, .childless hinside, (gains_of_addOverrideInNamespace hadd).trans hgains⟩
  | case8 overrides tag events between hadd behind hpass ih =>
    obtain ⟨sites, hinside, hgains⟩ := ih h
    exact ⟨_, .opened rfl (endsBefore_of_passOver hpass) hinside,
      (gains_of_addOverrideInNamespace hadd).trans hgains⟩

/-- A namespace is read behind a root. -/
theorem encloses_of_readNamespaceInRoot {ending : Ending} {state : Option Overrides} {tag : Tag}
    {events rest : List Event}
    (h : readNamespaceInRoot ending state tag events = .ok (overrides', rest)) :
    ∃ overrides sites, state = some overrides ∧
      Encloses (.space (tag.value? "Name")) events sites rest ∧
      Gains GivenBy overrides sites overrides' := by
  unfold readNamespaceInRoot at h
  cases state with
  | none => cases h
  | some overrides =>
    dsimp only [requireOverrides] at h
    split at h
    · cases h
    · rename_i space hname
      obtain ⟨sites, hinside, hgains⟩ := encloses_of_readNamespaceOverrides h
      exact ⟨overrides, sites, rfl, requireAttribute_eq_ok_iff.1 hname ▸ hinside, hgains⟩

/-! ## Documents -/

/-- Overrides that are accepted are read by a walk over a complete document. -/
theorem walk_of_readOverrideElements {ending : Ending} {state : Option Overrides}
    {events : List Event} {final : Overrides}
    (h : readOverrideElements ending state events = .ok final) :
    ending = .complete ∧ Walk "Overrides" GivenBy state events final := by
  fun_induction readOverrideElements ending state events with
  | case1 _ hcomplete =>
    cases h
    exact ⟨hcomplete, .done⟩
  | case2 | case5 | case8 | case10 | case12 => cases h
  | case3 _ _ ih => exact ⟨(ih h).1, .beside (.inl rfl) (ih h).2⟩
  | case4 _ _ ih => exact ⟨(ih h).1, .beside (.inr rfl) (ih h).2⟩
  | case6 state tag events state' hadd ih =>
    refine ⟨(ih h).1, ?_⟩
    unfold addChildlessOverride at hadd
    split at hadd
    · rename_i hname
      obtain rfl := Except.ok.inj hadd
      exact .root (.inr rfl) hname givenBy_empty (ih h).2
    · rename_i hname
      rcases gains_of_addOverrideInRoot hadd with
        ⟨rfl, rfl, hother⟩ | ⟨overrides, overrides', rfl, rfl, hgains⟩
      · exact .outside hname (Place.sites_root_of_notMem hother) (ih h).2
      · exact .single hname hgains (ih h).2
  | case7 _ _ _ hname ih => exact ⟨(ih h).1, .root (.inl rfl) hname givenBy_empty (ih h).2⟩
  | case9 state tag events hname hspace overrides' rest hread ih =>
    obtain ⟨overrides, sites, rfl, hinside, hgains⟩ := encloses_of_readNamespaceInRoot hread
    rw [← Place.inside_root_of_space hspace] at hinside
    have hnone : Place.root.sites tag = [] := Place.sites_root_of_notMem (by simp [hspace])
    exact ⟨(ih h).1, .pair hname hinside (hnone ▸ hgains) (ih h).2⟩
  | case11 state tag events hname hspace hadd ih =>
    rcases gains_of_addOverrideInRoot hadd with ⟨rfl, -, hother⟩ | ⟨_, _, -, hsome, -⟩
    · refine ⟨(ih h).1, .entered ?_ (ih h).2⟩
      simp only [List.mem_cons, List.not_mem_nil, or_false, not_or] at hother ⊢
      exact ⟨hname, hother.1, hother.2, hspace⟩
    · cases hsome
  | case13 state tag events hname hspace overrides' hadd rest hpass ih =>
    rcases gains_of_addOverrideInRoot hadd with ⟨-, hnone, -⟩ | ⟨overrides, _, rfl, hsome, hgains⟩
    · cases hnone
    · obtain rfl := Option.some.inj hsome
      exact ⟨(ih h).1, .passed hname hspace (endsBefore_of_passOver hpass) hgains (ih h).2⟩

end Overrides

end TypeProjection
