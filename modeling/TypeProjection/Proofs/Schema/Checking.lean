/-
  Proofs/Schema/Checking.lean --- what the check of a schema ensures.

  A schema passes its check exactly if no rule is broken anywhere in it.  Of a schema that
  passes, every struct in every place has a name, and so have all of its fields.
-/
import TypeProjection.Check
import TypeProjection.Registry.Load

set_option autoImplicit false

namespace TypeProjection

variable {schema : Schema} {space : Option NamespaceDecl} {decl : StructDecl}

/-- The fields of a struct break no rule exactly if all of them have names and types, and
no name is repeated or was seen before. -/
theorem fieldViolation?_eq_none_iff {owner : String} {seen : List String}
    {fields : List FieldDecl} :
    fieldViolation? owner seen fields = none ↔
      (∀ f ∈ fields, f.name ≠ "" ∧ f.typeName ≠ "") ∧ (fields.map FieldDecl.name).Nodup ∧
        ∀ f ∈ fields, f.name ∉ seen := by
  induction fields generalizing seen with
  | nil => simp [fieldViolation?]
  | cons f fields ih =>
    rw [fieldViolation?, List.forall_mem_cons, List.forall_mem_cons, List.map_cons,
      List.nodup_cons]
    split
    · rename_i hempty
      have hnot : ¬ (f.name ≠ "" ∧ f.typeName ≠ "") := fun hnamed =>
        hempty.elim hnamed.1 hnamed.2
      simp [hnot]
    split
    · rename_i hseen
      simp [hseen]
    · rename_i hnamed hnew
      have hfresh : f.name ∉ fields.map FieldDecl.name ↔ ∀ g ∈ fields, g.name ≠ f.name := by
        simp [List.mem_map]
      simp only [ih, hfresh, List.mem_cons, not_or]
      constructor
      · rintro ⟨hall, hnodup, hne⟩
        exact ⟨⟨not_or.1 hnamed, hall⟩, ⟨fun g hg => (hne g hg).1, hnodup⟩, hnew,
          fun g hg => (hne g hg).2⟩
      · rintro ⟨⟨-, hall⟩, ⟨hne, hnodup⟩, -, hold⟩
        exact ⟨hall, hnodup, fun g hg => ⟨hne g hg, hold g hg⟩⟩

/-- The fields of a struct that breaks no rule have names and types. -/
theorem StructDecl.named_of_violation? {key : String} (h : decl.violation? key = none)
    {f : FieldDecl} (hf : f ∈ decl.declaredFields) : f.name ≠ "" ∧ f.typeName ≠ "" := by
  unfold violation? at h
  split at h
  · cases h
  split at h
  · cases h
  · exact (fieldViolation?_eq_none_iff.1 h).1 f hf

/-- The declared structs are those outside namespaces and those of every namespace. -/
theorem struct_mem_declarations_iff :
    .struct space decl ∈ schema.declarations ↔
      (space = none ∧ decl ∈ schema.structs) ∨
        ∃ home ∈ schema.namespaces, decl ∈ home.structs ∧ space = some home := by
  cases space with
  | none => simp [Schema.declarations, NamespaceDecl.declarations]
  | some home =>
    have hhome (home' : NamespaceDecl) : some home = some home' ↔ home' = home := by
      rw [Option.some.injEq, eq_comm]
    simp [Schema.declarations, NamespaceDecl.declarations, hhome]

theorem check_eq_ok_iff : schema.check = .ok () ↔ schema.violation? = none := by
  unfold Schema.check refuseIf
  cases schema.violation? <;> simp

/-- A schema that passes its check declares no struct that breaks a rule. -/
theorem violation?_of_check (h : schema.check = .ok ())
    (hmem : .struct space decl ∈ schema.declarations) :
    decl.violation? (Declaration.struct space decl).key = none := by
  rw [check_eq_ok_iff, Schema.violation?, Option.or_eq_none_iff, List.findSome?_eq_none_iff,
    List.findSome?_eq_none_iff] at h
  obtain ⟨hstructs, hspaces⟩ := h
  obtain ⟨rfl, hdecl⟩ | ⟨home, hhome, hdecl, rfl⟩ := struct_mem_declarations_iff.1 hmem
  · exact hstructs decl hdecl
  · have hhome := hspaces home hhome
    unfold NamespaceDecl.violation? at hhome
    split at hhome
    · cases hhome
    · exact List.findSome?_eq_none_iff.1 hhome decl hdecl

/-- In a schema that passes its check, every field of a struct has a name and a type. -/
theorem named_of_check (h : schema.check = .ok ())
    (hmem : .struct space decl ∈ schema.declarations) {f : FieldDecl}
    (hf : f ∈ decl.declaredFields) : f.name ≠ "" ∧ f.typeName ≠ "" :=
  StructDecl.named_of_violation? (violation?_of_check h hmem) hf

end TypeProjection
