/-
  Proofs/Registry/Members.lean --- the names that a class declares for its fields.

  A class has two accessors for every field, named after its property, and a member that
  stores it.  The check of the worklist looks at the properties alone.  That is enough: a
  member keeps all of a declared name but one underscore in front, and a property depends on
  nothing else, so members are distinct where properties are (`checkWorklist_verdict`).
-/
import TypeProjection.Proofs.NameStyle
import TypeProjection.Proofs.Projection.Worklist
import TypeProjection.Proofs.Registry.Rearranged

set_option autoImplicit false

namespace TypeProjection

/-! ## Members and properties -/

/-- A member is marked in front of the declared name without one underscore in front of
it. -/
theorem toList_memberNameOf (name : String) : ∃ rest : List Char,
    (memberNameOf name).toList = 'm' :: '_' :: rest ∧
      (name.toList = rest ∨ name.toList = '_' :: rest) := by
  unfold memberNameOf
  split
  · rename_i hhead
    obtain ⟨rest, hrest⟩ := List.head?_eq_some_iff.1 hhead
    exact ⟨rest, by rw [String.toList_append, hrest]; rfl, .inr hrest⟩
  · exact ⟨name.toList, by rw [String.toList_append]; rfl, .inl rfl⟩

/-- Fields with the same member have the same property. -/
theorem propertyNameOf_eq_of_memberNameOf {name name' : String}
    (h : memberNameOf name = memberNameOf name') : propertyNameOf name = propertyNameOf name' := by
  have hproperty : ∀ {name : String} {rest : List Char},
      (name.toList = rest ∨ name.toList = '_' :: rest) →
        propertyNameOf name = String.ofList (capitalizeLeading rest) := by
    rintro name rest (hname | hname)
    · rw [propertyNameOf, hname]
    · rw [propertyNameOf, hname, capitalizeLeading_underscore]
  obtain ⟨rest, hmember, hname⟩ := toList_memberNameOf name
  obtain ⟨rest', hmember', hname'⟩ := toList_memberNameOf name'
  have hrest : 'm' :: '_' :: rest = 'm' :: '_' :: rest' := by rw [← hmember, ← hmember', h]
  rw [hproperty hname, hproperty hname', (List.cons.inj (List.cons.inj hrest).2).2]

/-! ## Declared names -/

/-- The names of the methods that read and write a field. -/
def StructField.accessorNames (f : StructField) : List String :=
  ["get_" ++ f.propertyName, "put_" ++ f.propertyName]

/-- The names that the class of a struct declares: the accessors of its fields, and the
members that store them. -/
def StructType.classNames (s : StructType) : List String :=
  s.fields.flatMap StructField.accessorNames ++ s.fields.map StructField.memberName

/-- Fields with distinct properties have distinct accessors. -/
theorem nodup_accessorNames {fields : List StructField}
    (h : (fields.map StructField.propertyName).Nodup) :
    (fields.flatMap StructField.accessorNames).Nodup := by
  have hget : ∀ a b : String, "get_" ++ a ≠ "put_" ++ b := by
    intro a b heq
    rw [← String.toList_inj, String.toList_append, String.toList_append] at heq
    exact absurd (List.cons.inj heq).1 (by decide)
  rw [List.nodup_flatMap]
  refine ⟨fun f _ => ?_, ?_⟩
  · exact List.nodup_cons.2 ⟨List.mem_singleton.not.2 (hget _ _), List.nodup_singleton _⟩
  · refine (List.pairwise_map.1 h).imp fun {f g} hne => ?_
    refine List.disjoint_left.2 ?_
    simp only [StructField.accessorNames, List.mem_cons, List.not_mem_nil, or_false]
    rintro a (rfl | rfl) (heq | heq)
    · exact hne (String.append_right_inj _ |>.1 heq)
    · exact hget _ _ heq
    · exact hget _ _ heq.symm
    · exact hne (String.append_right_inj _ |>.1 heq)

open Projection (figureSchema figureOverrides)

variable {schema : Schema} {overrides : Overrides} {style : NameStyle} {r : Registry}

/-- The fields of a loaded struct are declared fields. -/
theorem exists_decls_of_load (h : load schema overrides style = .ok r) {s : StructType}
    (hs : s ∈ r.structs) : ∃ decls : List FieldDecl, s.fields = decls.map StructField.ofDecl := by
  obtain ⟨space, decl, -, rfl⟩ := (mem_structs_of_load_bare h).1 hs
  exact ⟨_, rfl⟩

/-- Distinct properties come with distinct members. -/
theorem nodup_memberNames {decls : List FieldDecl}
    (h : ((decls.map StructField.ofDecl).map StructField.propertyName).Nodup) :
    ((decls.map StructField.ofDecl).map StructField.memberName).Nodup := by
  rw [List.map_map] at h ⊢
  exact List.pairwise_map.2 ((List.pairwise_map.1 h).imp fun {f g} hne heq =>
    hne (propertyNameOf_eq_of_memberNameOf heq))

/-- No accessor has the name of a member. -/
theorem nodup_classNames {s : StructType} {decls : List FieldDecl}
    (hfields : s.fields = decls.map StructField.ofDecl)
    (h : (s.fields.map StructField.propertyName).Nodup) : s.classNames.Nodup := by
  refine List.nodup_append.2 ⟨nodup_accessorNames h, ?_, ?_⟩
  · rw [hfields] at h ⊢
    exact nodup_memberNames h
  · intro name hname member hmember
    rw [hfields, List.map_map] at hmember
    obtain ⟨f, -, hf⟩ := List.mem_flatMap.1 hname
    obtain ⟨decl, -, rfl⟩ := List.mem_map.1 hmember
    obtain ⟨rest, hrest, -⟩ := toList_memberNameOf decl.name
    rintro rfl
    simp only [StructField.accessorNames, List.mem_cons, List.not_mem_nil, or_false] at hf
    rcases hf with hf | hf <;>
    · rw [Function.comp_apply, StructField.ofDecl, ← String.toList_inj, hrest,
        String.toList_append] at hf
      exact absurd (List.cons.inj hf).1 (by decide)

/-! ## The check -/

theorem StructType.violation?_eq_none_iff {s : StructType} :
    s.violation? = none ↔ (s.fields.map StructField.propertyName).Nodup := by
  rw [StructType.violation?, Option.map_eq_none_iff, firstRepeated?_eq_none_iff]
  exact and_iff_left fun _ _ => List.not_mem_nil

/-- The worklist passes its check exactly if no struct on it has two fields with one
property. -/
theorem checkWorklist_eq_ok_iff {r : Registry} :
    r.checkWorklist = .ok () ↔ ∀ s ∈ r.worklist, (s.fields.map StructField.propertyName).Nodup := by
  have hrefuse : ∀ violation : Option Violation,
      refuseIf violation = .ok () ↔ violation = none := by
    intro violation
    cases violation <;> simp [refuseIf]
  simp only [Registry.checkWorklist, hrefuse, List.findSome?_eq_none_iff,
    StructType.violation?_eq_none_iff]

/-- A loaded registry passes the check of its worklist exactly if in every struct that is to
be emitted the properties of all fields, inherited or its own, are distinct.  If it passes,
their members are distinct too, and a class declares no accessor and no member twice:
whatever two fields are called, with the same member they have the same property. -/
theorem checkWorklist_verdict {schema : Schema} {overrides : Overrides} {style : NameStyle}
    {r : Registry} (h : load schema overrides style = .ok r) :
    (r.checkWorklist = .ok () ↔ ∀ s ∈ r.structs, s.included = true →
      (s.fields.map StructField.propertyName).Nodup) ∧
    (r.checkWorklist = .ok () → ∀ s ∈ r.structs, s.included = true →
      (s.fields.map StructField.memberName).Nodup ∧ s.classNames.Nodup) ∧
    ∀ f g : FieldDecl, (StructField.ofDecl f).memberName = (StructField.ofDecl g).memberName →
      (StructField.ofDecl f).propertyName = (StructField.ofDecl g).propertyName := by
  have hcheck : r.checkWorklist = .ok () ↔ ∀ s ∈ r.structs, s.included = true →
      (s.fields.map StructField.propertyName).Nodup := by
    simp only [checkWorklist_eq_ok_iff, Registry.worklist, List.mem_filter, and_imp]
  refine ⟨hcheck, fun hpassed s hs hincluded => ?_, fun f g => propertyNameOf_eq_of_memberNameOf⟩
  obtain ⟨decls, hdecls⟩ := exists_decls_of_load h hs
  have hnodup := nodup_classNames hdecls (hcheck.1 hpassed s hs hincluded)
  exact ⟨hnodup.of_append_right, hnodup⟩

/-- Two structs of which one extends the other; the fields of both have one property. -/
def twinSchema : Schema where
  primitives := ["FLOAT"]
  structs := []
  namespaces := [{ NamespaceDecl.ofNames "Geo" "Geo" with
    structs := [⟨"TWIN", some "Geo::ELDER", some [⟨"_at", "FLOAT"⟩]⟩,
      ⟨"ELDER", none, some [⟨"at", "FLOAT"⟩]⟩] }]

/-- The one that extends the other is asked for. -/
def twinOverrides : Overrides where
  structs := ⟨[("Geo::TWIN", ⟨none, none, true, none⟩)], by simp⟩
  types := .empty

/-- The figures pass the check, so their members are distinct.  The twin does not pass it: it
would have one member for the field that it inherits and for its own. -/
theorem checkWorklist_verdict_figures :
    (∃ r, load figureSchema (figureOverrides true) default = .ok r ∧ r.checkWorklist = .ok () ∧
      ∀ s ∈ r.structs, s.included = true → (s.fields.map StructField.memberName).Nodup) ∧
    ∃ r, load twinSchema twinOverrides default = .ok r ∧ r.checkWorklist ≠ .ok () ∧
      ∃ s ∈ r.structs, s.included = true ∧
        s.fields.map StructField.memberName = ["m_at", "m_at"] := by
  constructor
  · obtain ⟨r, -, hr, -⟩ := Projection.exists_generate_figures true
    have hpassed : r.checkWorklist = .ok () := by
      have hany : (load figureSchema (figureOverrides true) default).toOption.any
          (fun r => r.checkWorklist.toOption.isSome) = true := by
        decide +kernel
      rw [hr] at hany
      obtain ⟨⟨⟩, hsome⟩ := Option.isSome_iff_exists.1 hany
      exact eq_ok_of_toOption hsome
    exact ⟨r, hr, hpassed, fun s hs hincluded =>
      ((checkWorklist_verdict hr).2.1 hpassed s hs hincluded).1⟩
  · have hany : (load twinSchema twinOverrides default).toOption.any (fun r =>
        r.structs.any fun s => s.included &&
          decide (s.fields.map StructField.memberName = ["m_at", "m_at"])) = true := by
      decide +kernel
    obtain ⟨r, hload, hstruct⟩ := (Option.any_eq_true _ _).1 hany
    have hr := eq_ok_of_toOption hload
    obtain ⟨s, hs, hshown⟩ := List.any_eq_true.1 hstruct
    obtain ⟨hincluded, hmembers⟩ := Bool.and_eq_true_iff.1 hshown
    have hmembers := of_decide_eq_true hmembers
    refine ⟨r, hr, fun hpassed => ?_, s, hs, hincluded, hmembers⟩
    have hnodup := ((checkWorklist_verdict hr).2.1 hpassed s hs hincluded).1
    rw [hmembers] at hnodup
    exact absurd hnodup (by decide)

end TypeProjection
