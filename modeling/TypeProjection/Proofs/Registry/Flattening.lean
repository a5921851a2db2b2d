/-
  Proofs/Registry/Flattening.lean --- the fields of the finished structs.

  Ending registration succeeds exactly if every struct with a parent extends a
  registered struct without one, wherever that stands; the first struct for which
  this fails is reported (`build_verdict`).  In the finished registry nothing is
  left to be flattened.
-/
import TypeProjection.Proofs.Registry.Loading

set_option autoImplicit false

namespace TypeProjection.Registry.Builder

variable {b : Builder} {r : Registry} {s : StructType}

/-- A condition on the structs among the entries is one on the structs. -/
theorem forall_structs_iff {p : StructType → Prop} :
    (∀ entry ∈ r.types.entries, ∀ s, entry.2 = .struct s → p s) ↔ ∀ s ∈ r.structs, p s := by
  constructor
  · intro h s hs
    obtain ⟨key, hmem⟩ := mem_structs_iff.1 hs
    exact h _ hmem s rfl
  · rintro h ⟨key, type⟩ hmem s rfl
    exact h s (mem_structs_iff.2 ⟨key, hmem⟩)

/-- The first entry that is a struct with a property is the first such struct. -/
theorem isFirst_structs_iff {p : StructType → Prop} :
    IsFirst p r.structs s ↔
      ∃ entry, IsFirst (fun entry => ∃ s, entry.2 = .struct s ∧ p s) r.types.entries entry ∧
        entry.2 = .struct s := by
  have hstruct (type : ProjectedType) (s : StructType) :
      type.struct? = some s ↔ type = .struct s := by
    cases type <;> simp [ProjectedType.struct?]
  unfold structs Table.values
  rw [List.filterMap_map, isFirst_filterMap_iff]
  simp only [Function.comp_apply, hstruct]

/-- A struct that had its own fields when it was registered has, in the finished
registry, those that flattening gives. -/
theorem flatten_of_build_of_own (h : b.build = .ok r)
    (hown : ∀ s ∈ (Registry.mk b.types).structs, s.fields = s.declaredFields)
    (hs : s ∈ r.structs) : r.flatten s = .ok s.fields := by
  obtain ⟨s', hs', hinherits⟩ :=
    exists_of_mem_of_forall₂ (forall₂_structs_of_build h).flip hs
  cases hinherits with
  | child hparent hget hancestor =>
    have hget' := (get?_of_build h).2 ⟨_, hget, .root hancestor⟩
    simp only [flatten, hparent, resolve, hget', ProjectedType.struct?, hancestor]
  | root hparent => rw [flatten, hparent, hown s hs']
  | other hother => simp [ProjectedType.struct?] at hother

/-- If all structs had their own fields when they were registered, the fields of a
finished child are those of its parent and then its own. -/
theorem fields_of_build_of_own (h : b.build = .ok r)
    (hown : ∀ s ∈ (Registry.mk b.types).structs, s.fields = s.declaredFields)
    (hs : s ∈ r.structs) {parent : String} (hparent : s.parent = some parent) :
    ∃ ancestor, r.get? parent = some (.struct ancestor) ∧
      s.fields = ancestor.fields ++ s.declaredFields := by
  obtain ⟨s', hs', hinherits⟩ :=
    exists_of_mem_of_forall₂ (forall₂_structs_of_build h).flip hs
  cases hinherits with
  | @child _ ancestor parent' hparent' hget hancestor =>
    obtain rfl : parent' = parent := Option.some.inj (hparent'.symm.trans hparent)
    have hmem : ancestor ∈ (Registry.mk b.types).structs :=
      mem_structs_iff.2 ⟨_, Table.get?_eq_some_iff.1 hget⟩
    exact ⟨ancestor, (get?_of_build h).2 ⟨_, hget, .root hancestor⟩, by rw [hown _ hmem]⟩
  | root hroot => simp [hroot] at hparent
  | other hother => simp [ProjectedType.struct?] at hother

/-- Loading registers every struct with the fields of its declaration. -/
theorem Holds.fields_eq {schema : Schema} {overrides : Overrides} {style : NameStyle}
    (h : b.Holds overrides style schema) (hs : s ∈ (Registry.mk b.types).structs) :
    s.fields = s.declaredFields := by
  obtain ⟨key, hmem⟩ := mem_structs_iff.1 hs
  rw [h, List.mem_map] at hmem
  obtain ⟨d, -, hd⟩ := hmem
  obtain ⟨space, decl, rfl, rfl⟩ :=
    Declaration.describe_eq_struct_iff.1 (congrArg Prod.snd hd)
  rfl

/-- Ending registration succeeds exactly if the parent of every registered struct
that has one is a registered struct without a parent; otherwise the first struct
for which this fails is reported.  Every finished type is the registered one under
the same key; a struct with a parent has the fields declared by its parent in
front of its own.  If, as after loading, all structs were registered with their
own fields, then the fields of a child are those of its parent and then its own,
and flattening a finished struct again gives the fields it has. -/
theorem build_verdict (b : Builder) :
    let registered : Registry := ⟨b.types⟩
    ((∃ r, b.build = .ok r) ↔ ∀ s ∈ registered.structs, registered.HasUsableParent s) ∧
    (∀ e, b.build = .error e ↔
      ∃ s, IsFirst (fun s => ¬ registered.HasUsableParent s) registered.structs s ∧
        registered.ParentFault s e) ∧
    (∀ r, b.build = .ok r →
      List.Forall₂ (fun entry entry' =>
          entry'.1 = entry.1 ∧ registered.Inherits entry.2 entry'.2)
        b.types.entries r.types.entries ∧
      ((∀ s ∈ registered.structs, s.fields = s.declaredFields) → ∀ s ∈ r.structs,
        (∀ parent, s.parent = some parent →
          ∃ ancestor, r.get? parent = some (.struct ancestor) ∧
            s.fields = ancestor.fields ++ s.declaredFields) ∧
        r.flatten s = .ok s.fields)) ∧
    ∀ schema overrides style, b.Holds overrides style schema →
      ∀ s ∈ registered.structs, s.fields = s.declaredFields := by
  intro registered
  refine ⟨?_, fun e => ?_, fun r hr => ⟨build_eq_ok_iff.1 hr, fun hown s hs => ?_⟩, ?_⟩
  · exact exists_build_iff.trans (forall_structs_iff (r := registered))
  · rw [build_eq_error_iff]
    simp only [isFirst_structs_iff, not_forall, exists_prop]
    constructor
    · intro hex
      obtain ⟨entry, hfirst, s, hs, hfault⟩ := hex
      exact ⟨s, ⟨entry, hfirst, hs⟩, hfault⟩
    · intro hex
      obtain ⟨s, ⟨entry, hfirst, hs⟩, hfault⟩ := hex
      exact ⟨entry, hfirst, s, hs, hfault⟩
  · exact ⟨fun parent hparent => fields_of_build_of_own hr hown hs hparent,
      flatten_of_build_of_own hr hown hs⟩
  · intro schema overrides style hb s hs
    exact hb.fields_eq hs

end TypeProjection.Registry.Builder
