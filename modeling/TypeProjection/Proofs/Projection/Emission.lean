/-
  Proofs/Projection/Emission.lean --- which structs can be emitted.

  A struct is looked at up to three times: its kind is chosen by a scan that
  stops at the first interface, a class is asked for its identity, and the types
  of all fields are looked up.  Together these refuse a struct exactly if a type
  is unknown or the identity of a class is missing (`generate_verdict`), and
  which of the two is reported depends on where the first unknown type stands.
-/
import TypeProjection.Projection.Generation
import TypeProjection.Proofs.Projection.Fields

set_option autoImplicit false

namespace TypeProjection.Projection

variable {r : Registry} {config : Config} {s : StructType}

/-! ## One struct -/

/-- The block that a struct adds when its turn comes. -/
def structBlock (r : Registry) (config : Config) (s : StructType) :
    Except GenerateError Block :=
  match selectKind r s with
  | .error e => .error (.schema e)
  | .ok kind => blockOfKind r config s kind

/-- A struct that can be emitted: its types are registered, and it has an
identity if it needs one. -/
structure Emittable (r : Registry) (s : StructType) : Prop where
  /-- The types of all fields are registered. -/
  known : ∀ f ∈ s.fields, r.IsKnown f
  /-- A struct with an interface among them has an identity. -/
  identified : r.HoldsInterface s → s.guid.isSome = true

theorem selectKind_eq_valueType_iff :
    selectKind r s = .ok .valueType ↔
      (∀ f ∈ s.fields, r.IsKnown f) ∧ ¬ r.HoldsInterface s := by
  unfold selectKind
  rw [kindOfFields_eq_valueType_iff]
  constructor
  · intro h
    refine ⟨fun f hf => ?_, ?_⟩
    · by_contra hknown
      exact h f hf (Or.inl hknown)
    · intro hex
      obtain ⟨f, hf, hinterface⟩ := hex
      exact h f hf (Or.inr hinterface)
  · rintro ⟨hknown, hnone⟩ f hf (hunknown | hinterface)
    · exact hunknown (hknown f hf)
    · exact hnone ⟨f, hf, hinterface⟩

theorem holdsInterface_of_selectKind (h : selectKind r s = .ok .runtimeClass) :
    r.HoldsInterface s := by
  obtain ⟨f, hf, hinterface⟩ := kindOfFields_eq_runtimeClass_iff.1 h
  exact ⟨f, hf.mem, hinterface⟩

/-- With all types known the kind of a struct is that of a class exactly if it
holds an interface. -/
theorem selectKind_of_known (hknown : ∀ f ∈ s.fields, r.IsKnown f) :
    selectKind r s = .ok (if r.HoldsInterface s then .runtimeClass else .valueType) := by
  cases h : selectKind r s with
  | error e =>
    obtain ⟨f, hf, hunknown, -⟩ := kindOfFields_eq_error_iff.1 h
    exact absurd (hknown f hf.mem) hunknown
  | ok kind =>
    cases kind with
    | runtimeClass => rw [if_pos (holdsInterface_of_selectKind h)]
    | valueType => rw [if_neg (selectKind_eq_valueType_iff.1 h).2]

/-- The block of a struct under a kind of projection has all its fields; a class has its
identity as well. -/
theorem blockOfKind_eq_ok_iff {kind : ProjectionKind} {block : Block} :
    blockOfKind r config s kind = .ok block ↔
      ∃ fields, typedFields r s = .ok fields ∧
        ((kind = .runtimeClass ∧ ∃ guid, s.guid = some guid ∧
            block = ⟨interfaceStrokes s guid fields, wrapperStrokes config s fields⟩) ∨
          (kind = .valueType ∧ block = ⟨valueStrokes s fields, []⟩)) := by
  cases kind with
  | runtimeClass =>
    cases hguid : s.guid with
    | none => simp [blockOfKind, classBlock, hguid]
    | some guid =>
      cases hfields : typedFields r s <;>
        simp [blockOfKind, classBlock, hguid, hfields, eq_comm]
  | valueType =>
    cases hfields : typedFields r s <;> simp [blockOfKind, valueBlock, hfields, eq_comm]

theorem structBlock_eq_ok_iff_kind {block : Block} :
    structBlock r config s = .ok block ↔
      ∃ kind, selectKind r s = .ok kind ∧ blockOfKind r config s kind = .ok block := by
  unfold structBlock
  cases selectKind r s <;> simp

/-- The block of a struct is that of its own kind, with all its fields. -/
theorem structBlock_eq_ok_iff {block : Block} :
    structBlock r config s = .ok block ↔
      ∃ fields, typedFields r s = .ok fields ∧
        ((r.HoldsInterface s ∧ ∃ guid, s.guid = some guid ∧
            block = ⟨interfaceStrokes s guid fields, wrapperStrokes config s fields⟩) ∨
          (¬ r.HoldsInterface s ∧ block = ⟨valueStrokes s fields, []⟩)) := by
  rw [structBlock_eq_ok_iff_kind]
  simp only [blockOfKind_eq_ok_iff]
  constructor
  · rintro ⟨kind, hkind, fields, hfields, ⟨rfl, hclass⟩ | ⟨rfl, hvalue⟩⟩
    · exact ⟨fields, hfields, .inl ⟨holdsInterface_of_selectKind hkind, hclass⟩⟩
    · exact ⟨fields, hfields, .inr ⟨(selectKind_eq_valueType_iff.1 hkind).2, hvalue⟩⟩
  · rintro ⟨fields, hfields, h⟩
    have hkind := selectKind_of_known (exists_typedFields_iff.1 ⟨fields, hfields⟩)
    rcases h with ⟨hholds, hclass⟩ | ⟨hnone, hvalue⟩
    · rw [if_pos hholds] at hkind
      exact ⟨_, hkind, fields, hfields, .inl ⟨rfl, hclass⟩⟩
    · rw [if_neg hnone] at hkind
      exact ⟨_, hkind, fields, hfields, .inr ⟨rfl, hvalue⟩⟩

theorem exists_structBlock_iff (config : Config) :
    (∃ block, structBlock r config s = .ok block) ↔ Emittable r s := by
  constructor
  · intro hex
    obtain ⟨block, h⟩ := hex
    obtain ⟨fields, hfields, hblock⟩ := structBlock_eq_ok_iff.1 h
    refine ⟨exists_typedFields_iff.1 ⟨fields, hfields⟩, fun hholds => ?_⟩
    rcases hblock with ⟨-, guid, hguid, -⟩ | ⟨hnone, -⟩
    · simp [hguid]
    · exact absurd hholds hnone
  · intro h
    obtain ⟨fields, hfields⟩ := exists_typedFields_iff.2 h.known
    by_cases hholds : r.HoldsInterface s
    · obtain ⟨guid, hguid⟩ := Option.isSome_iff_exists.1 (h.identified hholds)
      exact ⟨_, structBlock_eq_ok_iff.2 ⟨fields, hfields, Or.inl ⟨hholds, guid, hguid, rfl⟩⟩⟩
    · exact ⟨_, structBlock_eq_ok_iff.2 ⟨fields, hfields, Or.inr ⟨hholds, rfl⟩⟩⟩

/-! ## What is reported -/

/-- The field whose unknown type is reported for a struct: the first one of
unknown type, unless an interface in front of it makes the struct a class whose
missing identity is found out before. -/
def ReportsField (r : Registry) (s : StructType) (f : StructField) : Prop :=
  ∃ before after, s.fields = before ++ f :: after ∧
    (∀ g ∈ before, r.IsKnown g) ∧ ¬ r.IsKnown f ∧
    ((∀ g ∈ before, ¬ r.IsInterfaceField g) ∨ ¬ r.HoldsInterface s ∨ s.guid.isSome = true)

/-- What is reported for a struct that cannot be emitted. -/
inductive Reports (r : Registry) (s : StructType) : GenerateError → Prop where
  /-- the type of a field is unknown; the struct that is emitted owns the field -/
  | unknownFieldType (f : StructField) (h : ReportsField r s f) :
    Reports r s (.schema (.unknownFieldType f.typeName f.name s.qualifiedName))
  /-- no field is reported, so the identity is missing -/
  | missingGuid (h : ∀ f, ¬ ReportsField r s f) : Reports r s (.missingGuid s.qualifiedName)

theorem ReportsField.isFirst {f : StructField} (h : ReportsField r s f) :
    IsFirst (fun f => ¬ r.IsKnown f) s.fields f := by
  obtain ⟨before, after, heq, hknown, hf, -⟩ := h
  exact ⟨before, after, heq, fun g hg => not_not_intro (hknown g hg), hf⟩

theorem Reports.unique {e e' : GenerateError} (h : Reports r s e) (h' : Reports r s e') :
    e = e' := by
  cases h with
  | unknownFieldType f hf =>
    cases h' with
    | unknownFieldType g hg => rw [hf.isFirst.unique hg.isFirst]
    | missingGuid hnone => exact absurd hf (hnone f)
  | missingGuid hnone =>
    cases h' with
    | unknownFieldType g hg => exact absurd hg (hnone g)
    | missingGuid _ => rfl

/-- What is found out while the kind of a struct is chosen is reported. -/
theorem reports_of_selectKind {e : SchemaError} (h : selectKind r s = .error e) :
    Reports r s (.schema e) := by
  obtain ⟨f, ⟨before, after, heq, hbefore, -⟩, hf, rfl⟩ := kindOfFields_eq_error_iff.1 h
  refine .unknownFieldType f ⟨before, after, heq, fun g hg => ?_, hf, Or.inl fun g hg hi => ?_⟩
  · by_contra hknown
    exact hbefore g hg (Or.inl hknown)
  · exact hbefore g hg (Or.inr hi)

/-- What is found out while the types of the fields are looked up is reported if
the struct is no class or has its identity. -/
theorem reports_of_typedFields {e : SchemaError} (h : typedFields r s = .error e)
    (hs : ¬ r.HoldsInterface s ∨ s.guid.isSome = true) : Reports r s (.schema e) := by
  obtain ⟨f, ⟨before, after, heq, hbefore, hf⟩, rfl⟩ := typedFields_eq_error_iff.1 h
  exact .unknownFieldType f
    ⟨before, after, heq, fun g hg => not_not.1 (hbefore g hg), hf, Or.inr hs⟩

/-- A class without identity whose kind could be chosen has no field to
report. -/
theorem not_reportsField_of_selectKind (h : selectKind r s = .ok .runtimeClass)
    (hguid : s.guid = none) (f : StructField) : ¬ ReportsField r s f := by
  obtain ⟨g, ⟨before, after, heq, hbefore, -⟩, hg⟩ := kindOfFields_eq_runtimeClass_iff.1 h
  intro hex
  obtain ⟨before', after', heq', hknown, hf, hnone | hnone | hsome⟩ := hex
  · -- The first unknown field would have to stand in front of the interface `g`.
    have hmem : f ∈ before := by
      rcases List.append_eq_append_iff.1 (heq.symm.trans heq') with
        ⟨rest, rfl, hrest⟩ | ⟨rest, rfl, hrest⟩
      · cases rest with
        | nil =>
          obtain ⟨rfl, -⟩ := List.cons.inj hrest
          exact absurd hg.isKnown hf
        | cons g' rest =>
          obtain ⟨rfl, -⟩ := List.cons.inj hrest
          exact absurd hg (hnone g (by simp))
      · cases rest with
        | nil =>
          obtain ⟨rfl, -⟩ := List.cons.inj hrest
          exact absurd hg.isKnown hf
        | cons f' rest =>
          obtain ⟨rfl, -⟩ := List.cons.inj hrest
          simp
    exact hbefore f hmem (Or.inl hf)
  · exact hnone (holdsInterface_of_selectKind h)
  · simp [hguid] at hsome

theorem reports_of_structBlock {e : GenerateError} (h : structBlock r config s = .error e) :
    Reports r s e := by
  unfold structBlock at h
  cases hkind : selectKind r s with
  | error e' =>
    simp only [hkind, Except.error.injEq] at h
    exact h ▸ reports_of_selectKind hkind
  | ok kind =>
    simp only [hkind] at h
    cases kind with
    | runtimeClass =>
      simp only [blockOfKind, classBlock] at h
      split at h
      · rename_i hguid
        exact Except.error.inj h ▸ .missingGuid (not_reportsField_of_selectKind hkind hguid)
      · rename_i guid hguid
        split at h
        · rename_i e' hfields
          exact Except.error.inj h ▸ reports_of_typedFields hfields (Or.inr (by simp [hguid]))
        · simp at h
    | valueType =>
      simp only [blockOfKind, valueBlock] at h
      split at h
      · rename_i e' hfields
        exact Except.error.inj h ▸
          reports_of_typedFields hfields (Or.inl (selectKind_eq_valueType_iff.1 hkind).2)
      · simp at h

theorem structBlock_eq_error_iff {e : GenerateError} :
    structBlock r config s = .error e ↔ ¬ Emittable r s ∧ Reports r s e := by
  rw [← exists_structBlock_iff config]
  cases h : structBlock r config s with
  | ok block => simp
  | error e' =>
    have he' : Reports r s e' := reports_of_structBlock h
    simp only [Except.error.injEq, reduceCtorEq, exists_false, not_false_eq_true, true_and]
    exact ⟨fun heq => heq ▸ he', fun he => he'.unique he⟩

/-! ## The worklist -/

/-- Emitting structs one by one adds their blocks, or ends with the error of the
first one that has none. -/
theorem result_emitAll (structs : List StructType) (totals : Totals) (output : Output) :
    (emitAll r config structs totals output).result =
      (structs.mapM (structBlock r config)).map (·.foldl Output.write output) := by
  induction structs generalizing totals output with
  | nil => rfl
  | cons s structs ih =>
    rw [mapM_cons_eq, emitAll, structBlock]
    cases selectKind r s with
    | error e => rfl
    | ok kind =>
      cases hblock : blockOfKind r config s kind with
      | error e => simp [hblock, Except.map]
      | ok block =>
        simp only [hblock, Journaled.result_after, ih]
        cases structs.mapM (structBlock r config) <;> rfl

theorem generate_eq (r : Registry) (config : Config) :
    generate r config =
      (r.worklist.mapM (structBlock r config)).map (·.foldl Output.write .empty) :=
  result_emitAll r.worklist ⟨0, 0⟩ .empty

/-- Generation succeeds exactly if every struct on the worklist can be emitted.
Otherwise the first one that cannot is reported: its first field of unknown
type, or that its identity is missing. -/
theorem generate_verdict (r : Registry) (config : Config) :
    ((∃ output, generate r config = .ok output) ↔ ∀ s ∈ r.worklist, Emittable r s) ∧
      ∀ e, generate r config = .error e ↔
        ∃ s, IsFirst (fun s => ¬ Emittable r s) r.worklist s ∧ Reports r s e := by
  rw [generate_eq]
  constructor
  · constructor
    · rintro ⟨output, h⟩ s hs
      cases hblocks : r.worklist.mapM (structBlock r config) with
      | error e => simp [hblocks, Except.map] at h
      | ok blocks =>
        obtain ⟨block, -, hblock⟩ := exists_of_mem_of_forall₂ (mapM_eq_ok_iff.1 hblocks) hs
        exact (exists_structBlock_iff config).1 ⟨block, hblock⟩
    · intro h
      obtain ⟨blocks, hblocks⟩ := exists_forall₂_of_forall fun s hs =>
        (exists_structBlock_iff config).2 (h s hs)
      exact ⟨_, by rw [mapM_eq_ok_iff.2 hblocks]; rfl⟩
  · intro e
    have hfirst : ∀ s, (∀ block, structBlock r config s ≠ .ok block) ↔ ¬ Emittable r s := by
      intro s
      rw [← exists_structBlock_iff config, not_exists]
    have herror : (r.worklist.mapM (structBlock r config)).map (·.foldl Output.write .empty) =
        .error e ↔ r.worklist.mapM (structBlock r config) = .error e := by
      cases r.worklist.mapM (structBlock r config) <;> simp [Except.map]
    rw [herror, mapM_eq_error_iff]
    simp only [hfirst, structBlock_eq_error_iff]
    exact exists_congr fun s => and_congr_right fun hs => and_iff_right hs.holds

end TypeProjection.Projection
