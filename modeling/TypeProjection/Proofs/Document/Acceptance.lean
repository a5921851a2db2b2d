/-
  Proofs/Document/Acceptance.lean --- what a document that is accepted looks like.

  Both readers walk over the document in the same way, so the same is known of a schema
  and of an override document that are accepted.  Every element that matters is in the
  result, unless another root element begins behind it (`accepted_parts`), and every
  element is closed, unless it is a root or stands around the first one
  (`accepted_closes`).
-/
import TypeProjection.Proofs.Document.Override

set_option autoImplicit false

namespace TypeProjection

open Markup (Event Reading unclosed)

theorem walk_of_readSchema {text : String} {schema : Schema} (h : readSchema text = .ok schema) :
    (Reading.ofText text).ending = .complete ∧
      Walk "Settings" Schema.DeclaredBy none (Reading.ofText text).events schema :=
  walk_of_readDeclarations h

theorem walk_of_readOverrides {text : String} {overrides : Overrides}
    (h : readOverrides text = .ok overrides) :
    (Reading.ofText text).ending = .complete ∧
      Walk "Overrides" Overrides.GivenBy none (Reading.ofText text).events overrides :=
  Overrides.walk_of_readOverrideElements h

/-! ## Elements that are kept -/

theorem sum_parts_eq_iff (lost : List (List OverrideSite)) (kept : List OverrideSite) :
    kept.length = ([] :: (lost ++ [kept])).flatten.length ↔ ∀ part ∈ lost, part = [] := by
  have hlength : ([] :: (lost ++ [kept])).flatten.length = lost.flatten.length + kept.length := by
    simp
  rw [hlength, Nat.right_eq_add, List.length_eq_zero_iff, List.flatten_eq_nil_iff]

/-- A document that is accepted has elements that matter only behind its root elements.
The result has, one for one, the elements behind the last root; those behind the others
are lost.  So every element of a document counts exactly if there is nothing that matters
between an earlier root and the last.  Behind each root no two overrides of one kind have
the same key. -/
theorem accepted_parts (text : String) :
    (∀ schema, readSchema text = .ok schema → ∃ lost kept,
      documentParts "Settings" (Reading.ofText text).events = [] :: (lost ++ [kept]) ∧
      (kept.map OverrideSite.key?).Perm (schema.keys.map some) ∧
      schema.declarationCount = kept.length ∧
      (schema.declarationCount =
        (documentParts "Settings" (Reading.ofText text).events).flatten.length ↔
          ∀ part ∈ lost, part = [])) ∧
    (∀ overrides, readOverrides text = .ok overrides → ∃ lost kept,
      documentParts "Overrides" (Reading.ofText text).events = [] :: (lost ++ [kept]) ∧
      overrides.Collects kept ∧
      overrides.size = kept.length ∧
      (overrides.size =
        (documentParts "Overrides" (Reading.ofText text).events).flatten.length ↔
          ∀ part ∈ lost, part = []) ∧
      ∀ part ∈ lost ++ [kept], Acceptable part) := by
  constructor
  · intro schema h
    obtain ⟨parts, hparts, lost, kept, rfl, hkept, -⟩ := (walk_of_readSchema h).2.accounts
    have hcount : schema.declarationCount = kept.length :=
      schema.length_keys.symm.trans (NamedBy.length_eq hkept)
    refine ⟨lost, kept, hparts, hkept, hcount, ?_⟩
    rw [hparts, hcount]
    exact sum_parts_eq_iff lost kept
  · intro overrides h
    obtain ⟨parts, hparts, lost, kept, rfl, hkept, hlost⟩ := (walk_of_readOverrides h).2.accounts
    have hsize := hkept.collects.size_eq hkept.acceptable.named
    refine ⟨lost, kept, hparts, hkept.collects, hsize, ?_, ?_⟩
    · rw [hparts, hsize]
      exact sum_parts_eq_iff lost kept
    · rw [List.forall_mem_append, List.forall_mem_singleton]
      refine ⟨fun part hpart => ?_, hkept.acceptable⟩
      obtain ⟨_, hgiven⟩ := hlost part hpart
      exact hgiven.acceptable

/-- A schema with a root element behind the one that declares something. -/
def twoRootsText : String :=
  "<Settings><Primitive Name=\"A\"/></Settings><Settings/>"

/-- Overrides with a root element between two for the same struct. -/
def rootBetweenText : String :=
  "<Overrides><Struct Name=\"S\"/><Overrides/><Struct Name=\"S\"/></Overrides>"

/-- A primitive in front of a second root is not in the schema, and the second override
of a struct is not refused behind one. -/
theorem lost_at_second_root :
    ((readSchema twoRootsText).map Schema.declarationCount = .ok 0 ∧
      (documentParts "Settings" (Reading.ofText twoRootsText).events).flatten.length = 1) ∧
    ((readOverrides rootBetweenText).map Overrides.size = .ok 1 ∧
      (documentParts "Overrides" (Reading.ofText rootBetweenText).events).flatten.map
        OverrideSite.key? = [some "S", some "S"]) := by
  refine ⟨⟨eq_ok_of_toOption ?_, ?_⟩, eq_ok_of_toOption ?_, ?_⟩
  · decide +kernel
  · decide +kernel
  · decide +kernel
  · decide +kernel

/-! ## Elements that are closed -/

/-- A document that is accepted is read to its end.  It has a root element; what is
opened in front of the first one is nothing that matters, and of the elements from there
on only roots are ever left open. -/
theorem accepted_closes (text : String) :
    (∀ schema, readSchema text = .ok schema →
      (Reading.ofText text).ending = .complete ∧
        ClosesButRoots "Settings" (Reading.ofText text).events) ∧
    (∀ overrides, readOverrides text = .ok overrides →
      (Reading.ofText text).ending = .complete ∧
        ClosesButRoots "Overrides" (Reading.ofText text).events) := by
  constructor
  · intro schema h
    obtain ⟨hcomplete, hwalk⟩ := walk_of_readSchema h
    exact ⟨hcomplete, hwalk.closes⟩
  · intro overrides h
    obtain ⟨hcomplete, hwalk⟩ := walk_of_readOverrides h
    exact ⟨hcomplete, hwalk.closes⟩

/-- A schema that is cut off in front of the end tag of its root is accepted, and so are
overrides. -/
theorem accepted_without_end_tag :
    ((readSchema "<Settings><Primitive Name=\"A\"/>").map Schema.declarationCount = .ok 1 ∧
      unclosed (Reading.ofText "<Settings><Primitive Name=\"A\"/>").events =
        [⟨"Settings", []⟩]) ∧
    ((readOverrides "<Overrides><Struct Name=\"S\"/>").map Overrides.size = .ok 1 ∧
      unclosed (Reading.ofText "<Overrides><Struct Name=\"S\"/>").events =
        [⟨"Overrides", []⟩]) := by
  refine ⟨⟨eq_ok_of_toOption ?_, ?_⟩, eq_ok_of_toOption ?_, ?_⟩
  · decide +kernel
  · decide +kernel
  · decide +kernel
  · decide +kernel

end TypeProjection
