/-
  Proofs/Registry/LoadJournal.lean --- what loading reports.

  The journal of loading goes along with registration: a declaration that is
  registered leaves its remarks and the entry that it is registered, the first one
  whose name is taken leaves its remarks only, and nothing is reported of those
  behind it.  At the end stands whether the registry was loaded
  (`journal_loadJournaled`).
-/
import TypeProjection.Proofs.Registry.Finished

set_option autoImplicit false

namespace TypeProjection

variable {schema : Schema} {overrides : Overrides} {style : NameStyle}
  {ds accepted : List Declaration} {refused : Option Declaration}

/-! ## Registration -/

theorem Declaration.eq_of_mem_remarks {d : Declaration} {entry : JournalEntry}
    (h : entry ∈ d.remarks) : entry = .unionMet d.key := by
  cases d with
  | struct space content =>
    rw [remarks] at h
    split at h
    · exact List.mem_singleton.1 h
    · cases h
  | primitive | interface | enumeration => cases h

/-- What is reported of a declaration that is registered. -/
def Declaration.report (overrides : Overrides) (style : NameStyle) (d : Declaration) :
    List JournalEntry :=
  d.remarks ++ [.registered d.key (d.describe overrides style).projectedName]

/-- Which declarations are registered, and which one is refused, if one is. -/
inductive Tried (ds : List Declaration) : List Declaration → Option Declaration → Prop where
  /-- all of them have names of their own -/
  | all (hnodup : (ds.map Declaration.key).Nodup) : Tried ds ds none
  /-- those in front of one have names of their own, and it has one of these -/
  | upTo {before after : List Declaration} {d : Declaration} (heq : ds = before ++ d :: after)
    (hnodup : (before.map Declaration.key).Nodup) (hmem : d.key ∈ before.map Declaration.key) :
    Tried ds before (some d)

theorem exists_tried (ds : List Declaration) : ∃ accepted refused, Tried ds accepted refused := by
  -- names do not depend on the overrides, so registration without any tells them apart
  cases hregister : (registerAll .empty default ds .empty).result with
  | ok b => exact ⟨ds, none, .all (registerAll_eq_ok_iff.1 hregister).1⟩
  | error e =>
    obtain ⟨before, d, after, heq, hnodup, hmem, -⟩ := registerAll_eq_error_iff.1 hregister
    exact ⟨before, some d, .upTo heq hnodup hmem⟩

/-- Declarations with new names are registered and reported before those behind them. -/
theorem registerAll_append (overrides : Overrides) (style : NameStyle)
    {before : List Declaration} (b : Registry.Builder)
    (hnodup : (b.types.keys ++ before.map Declaration.key).Nodup) :
    ∃ b' : Registry.Builder, b'.types.keys = b.types.keys ++ before.map Declaration.key ∧
      ∀ ds, registerAll overrides style (before ++ ds) b =
        (registerAll overrides style ds b').after
          (before.flatMap (Declaration.report overrides style)) := by
  induction before generalizing b with
  | nil => exact ⟨b, (List.append_nil _).symm, fun ds => rfl⟩
  | cons d before ih =>
    cases hregister : b.register d.key (d.describe overrides style) with
    | error e =>
      obtain ⟨htaken, -⟩ := Registry.Builder.register_eq_error_iff.1 hregister
      exact absurd rfl ((List.nodup_append.1 hnodup).2.2 _ htaken _ List.mem_cons_self)
    | ok next =>
      have hkeys := Registry.Builder.keys_of_register hregister
      rw [List.map_cons, ← List.singleton_append, ← List.append_assoc, ← hkeys] at hnodup
      obtain ⟨b', hb', hall⟩ := ih next hnodup
      refine ⟨b', ?_, fun ds => ?_⟩
      · rw [hb', hkeys, List.append_assoc, List.map_cons, List.singleton_append]
      · simp only [List.cons_append, registerAll, hregister, hall, Journaled.after,
          List.flatMap_cons, Declaration.report, List.append_assoc]

/-- What is reported of the declarations that are registered, and of the one that is refused. -/
def registrations (overrides : Overrides) (style : NameStyle) (accepted : List Declaration)
    (refused : Option Declaration) : List JournalEntry :=
  accepted.flatMap (Declaration.report overrides style) ++
    refused.toList.flatMap Declaration.remarks

/-- Registrations are reported as remarks and as types that are registered. -/
theorem eq_of_mem_registrations {entry : JournalEntry}
    (h : entry ∈ registrations overrides style accepted refused) :
    ∃ d : Declaration, entry = .unionMet d.key ∨
      entry = .registered d.key (d.describe overrides style).projectedName := by
  rw [registrations, List.mem_append, List.mem_flatMap, List.mem_flatMap] at h
  rcases h with ⟨d, -, hentry⟩ | ⟨d, -, hentry⟩
  · rcases List.mem_append.1 hentry with hremark | hregistered
    · exact ⟨d, .inl (Declaration.eq_of_mem_remarks hremark)⟩
    · exact ⟨d, .inr (List.mem_singleton.1 hregistered)⟩
  · exact ⟨d, .inl (Declaration.eq_of_mem_remarks hentry)⟩

theorem journal_registerAll (overrides : Overrides) (style : NameStyle)
    (h : Tried ds accepted refused) :
    (registerAll overrides style ds .empty).journal =
      registrations overrides style accepted refused := by
  cases h with
  | all hnodup =>
    obtain ⟨b, -, hall⟩ := registerAll_append overrides style .empty hnodup
    have hjournal := congrArg Journaled.journal (hall [])
    rw [List.append_nil] at hjournal
    exact hjournal
  | @upTo _ after d heq hnodup hmem =>
    obtain ⟨b, hkeys, hall⟩ := registerAll_append overrides style .empty hnodup
    have hregister : b.register d.key (d.describe overrides style) =
        .error (.duplicateType d.key) := by
      refine Registry.Builder.register_eq_error_iff.2 ⟨?_, rfl⟩
      rw [hkeys]
      exact hmem
    rw [heq, hall, registerAll, hregister, registrations]
    simp

/-! ## Loading -/

theorem size_of_load {r : Registry} (h : load schema overrides style = .ok r) :
    r.size = schema.declarationCount := by
  rw [Registry.size, Table.size, entries_of_load h, List.length_map, schema.length_declarations]

theorem journal_loadJournaled_eq (schema : Schema) (overrides : Overrides) (style : NameStyle) :
    (loadJournaled schema overrides style).journal =
      (registerAll overrides style schema.declarations .empty).journal ++
        match load schema overrides style with
        | .error _ => []
        | .ok r => [.loaded r.size r.worklist.length] := by
  simp only [load, loadJournaled]
  cases (registerAll overrides style schema.declarations .empty).result with
  | error e => simp
  | ok b => cases h : b.build <;> simp only [h, List.append_nil]

/-- Behind what is reported of the declarations stands how many types are loaded and how many
structs are to be emitted, if the registry is loaded. -/
theorem journal_loadJournaled (htried : Tried schema.declarations accepted refused) :
    (loadJournaled schema overrides style).journal =
      registrations overrides style accepted refused ++
        match load schema overrides style with
        | .error _ => []
        | .ok r => [.loaded schema.declarationCount r.worklist.length] := by
  rw [journal_loadJournaled_eq, journal_registerAll overrides style htried]
  cases h : load schema overrides style with
  | error e => rfl
  | ok r => simp only [size_of_load h]

/-- All declarations of a schema that is loaded are registered. -/
theorem Tried.eq_of_load {r : Registry} (h : load schema overrides style = .ok r)
    (htried : Tried schema.declarations accepted refused) :
    accepted = schema.declarations ∧ refused = none := by
  generalize hds : schema.declarations = ds at htried
  cases htried with
  | all => exact ⟨rfl, rfl⟩
  | upTo heq hnodup hmem =>
    refine absurd (nodup_keys_of_load h) (not_nodup_of_firstRepeated ⟨_, _, hds.trans heq, ?_⟩)
    exact ⟨hnodup, hmem⟩

/-- Types are reported under the projected names that they have in the registry. -/
theorem projectedName_of_load {r : Registry} (h : load schema overrides style = .ok r)
    {d : Declaration} (hd : d ∈ schema.declarations) :
    ∃ type, r.get? d.key = some type ∧
      type.projectedName = (d.describe overrides style).projectedName := by
  refine ⟨_, (get?_of_load h).2 ⟨d, hd, rfl, rfl⟩, ?_⟩
  cases d <;> rfl

end TypeProjection
