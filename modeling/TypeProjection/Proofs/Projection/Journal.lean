/-
  Proofs/Projection/Journal.lean --- what loading and generating report.

  Emission reports a struct as soon as its kind is chosen, so a struct that cannot
  be emitted is reported unless that already fails; the totals count what was
  emitted.  With what loading reports in front of it this is all that is reported
  from a schema to its two texts, line by line as it is logged (`journal_verdict`).
-/
import TypeProjection.Proofs.Projection.Blocks
import TypeProjection.Proofs.Projection.Unions
import TypeProjection.Proofs.Registry.Emitted
import TypeProjection.Proofs.Registry.LoadJournal

set_option autoImplicit false

namespace TypeProjection.Projection

variable {r : Registry} {config : Config}

/-! ## Lines -/

/-- What is logged when a declaration is met: whether it is a struct without a field list. -/
def metLines : Declaration → List LogLine
  | d@(.struct _ ⟨_, _, none⟩) =>
    [⟨.warn, "struct has no field list, treating as union", [("name", .text d.key)]⟩]
  | _ => []

/-- What is logged when a declaration is registered under a projected name. -/
def registeredLine (d : Declaration) (projectedName : String) : LogLine :=
  ⟨.debug, "registered type", [("name", .text d.key), ("projected", .text projectedName)]⟩

/-- What is logged when a registry is loaded. -/
def loadedLine (types worklist : Nat) : LogLine :=
  ⟨.info, "type registry loaded", [("types", .count types), ("worklist", .count worklist)]⟩

/-- What is logged when the kind of a struct is chosen. -/
def emittingLine (name : String) (kind : ProjectionKind) : LogLine :=
  ⟨.debug, "emitting struct", [("name", .text name),
    ("projection", .text (if kind = .runtimeClass then "Class" else "ValueType"))]⟩

/-- What is logged when all structs are emitted. -/
def generatedLine (classes values : Nat) : LogLine :=
  ⟨.info, "generated projections", [("classes", .count classes), ("values", .count values)]⟩

/-- The only remark on a declaration is that a struct has no field list. -/
theorem map_line_remarks (d : Declaration) : d.remarks.map JournalEntry.line = metLines d := by
  cases d with
  | struct space content =>
    obtain ⟨name, parent, _ | fields⟩ := content <;> rfl
  | _ => rfl

theorem line_emitting (name : String) (kind : ProjectionKind) :
    (JournalEntry.emitting name kind).line = emittingLine name kind := by
  cases kind <;> rfl

theorem message_line_eq_loaded_iff {entry : JournalEntry} :
    entry.line.message = "type registry loaded" ↔
      ∃ types worklist, entry = .loaded types worklist := by
  cases entry <;> simp [JournalEntry.line, JournalEntry.message]

theorem message_line_eq_generated_iff {entry : JournalEntry} :
    entry.line.message = "generated projections" ↔
      ∃ classes values, entry = .generated classes values := by
  cases entry <;> simp [JournalEntry.line, JournalEntry.message]

/-- A message that is told by entries with two counters only is in a log if such an entry is. -/
theorem exists_line_iff {message : String} {counted : Nat → Nat → JournalEntry}
    (h : ∀ {entry : JournalEntry}, entry.line.message = message ↔ ∃ m n, entry = counted m n)
    (entries : List JournalEntry) :
    (∃ line ∈ entries.map JournalEntry.line, line.message = message) ↔
      ∃ m n, counted m n ∈ entries := by
  constructor
  · rintro ⟨line, hline, hmessage⟩
    obtain ⟨entry, hentry, rfl⟩ := List.mem_map.1 hline
    obtain ⟨m, n, rfl⟩ := h.1 hmessage
    exact ⟨m, n, hentry⟩
  · rintro ⟨m, n, hentry⟩
    exact ⟨_, List.mem_map_of_mem hentry, h.2 ⟨m, n, rfl⟩⟩

/-! ## Emissions -/

/-- A struct that is emitted: its kind is chosen, and the emitter of that kind gives its
block. -/
structure Emission (r : Registry) (config : Config) where
  /-- The struct. -/
  subject : StructType
  /-- What it is emitted as. -/
  kind : ProjectionKind
  /-- What it adds to the texts. -/
  block : Block
  /-- The kind is that of the struct. -/
  chosen : selectKind r subject = .ok kind
  /-- The block is that of the kind. -/
  emitted : blockOfKind r config subject kind = .ok block

namespace Emission

/-- What is reported of a struct that is emitted. -/
def entry (e : Emission r config) : JournalEntry :=
  .emitting e.subject.qualifiedName e.kind

theorem map_line_entry (emissions : List (Emission r config)) :
    (emissions.map entry).map JournalEntry.line =
      emissions.map fun e => emittingLine e.subject.qualifiedName e.kind := by
  rw [List.map_map]
  exact List.map_congr_left fun e _ => line_emitting _ _

/-- The totals with more structs emitted. -/
def totals (start : Totals) (emissions : List (Emission r config)) : Totals :=
  emissions.foldl (fun totals e => totals.count e.kind) start

/-- Both texts with the blocks of more structs. -/
def output (start : Output) (emissions : List (Emission r config)) : Output :=
  (emissions.map block).foldl Output.write start

/-- How many structs are emitted as classes. -/
def classes (emissions : List (Emission r config)) : Nat :=
  emissions.countP (·.kind = .runtimeClass)

/-- How many structs are emitted as plain data. -/
def values (emissions : List (Emission r config)) : Nat :=
  emissions.countP (·.kind = .valueType)

theorem totals_eq (start : Totals) (emissions : List (Emission r config)) :
    totals start emissions =
      ⟨start.classes + classes emissions, start.values + values emissions⟩ := by
  induction emissions generalizing start with
  | nil => rfl
  | cons e emissions ih =>
    rw [totals, List.foldl_cons]
    refine (ih _).trans ?_
    cases hkind : e.kind <;> simp [classes, values, Totals.count, hkind] <;> omega

/-- Every struct that is emitted is counted, as one thing or the other. -/
theorem classes_add_values (emissions : List (Emission r config)) :
    classes emissions + values emissions = emissions.length := by
  induction emissions with
  | nil => rfl
  | cons e emissions ih =>
    cases hkind : e.kind <;> simp [classes, values, hkind] at ih ⊢ <;> omega

/-- Classes add native text, and plain data adds none. -/
theorem kind_eq_runtimeClass_iff_native (e : Emission r config) :
    e.kind = .runtimeClass ↔ e.block.native ≠ [] := by
  obtain ⟨s, kind, block, -, hemitted⟩ := e
  obtain ⟨fields, -, ⟨rfl, guid, -, rfl⟩ | ⟨rfl, rfl⟩⟩ := blockOfKind_eq_ok_iff.1 hemitted
  · exact iff_of_true rfl (by simp [wrapperStrokes])
  · exact iff_of_false (by simp) (not_not_intro rfl)

theorem classes_eq (emissions : List (Emission r config)) :
    classes emissions = emissions.countP (·.block.native ≠ []) := by
  simp only [classes, kind_eq_runtimeClass_iff_native]

theorem values_eq (emissions : List (Emission r config)) :
    values emissions = emissions.countP (·.block.native = []) := by
  have hkind : ∀ e : Emission r config, e.kind = .valueType ↔ e.block.native = [] := by
    intro e
    rw [← not_iff_not, ← ne_eq e.block.native, ← e.kind_eq_runtimeClass_iff_native]
    cases e.kind <;> decide
  simp only [values, hkind]

end Emission

/-- Why a struct cannot be emitted, with the kind that was chosen for it. -/
inductive EmissionFails (r : Registry) (config : Config) (s : StructType) :
    Option ProjectionKind → GenerateError → Prop where
  /-- no kind can be chosen -/
  | kindless {e : SchemaError} (h : selectKind r s = .error e) :
    EmissionFails r config s none (.schema e)
  /-- the emitter of the kind fails -/
  | blockless {kind : ProjectionKind} {e : GenerateError} (hkind : selectKind r s = .ok kind)
    (h : blockOfKind r config s kind = .error e) : EmissionFails r config s (some kind) e

/-- Structs that are emitted stand in front of the first one that is not, if there is one. -/
theorem exists_emissions (config : Config) (structs : List StructType) :
    ∃ emissions : List (Emission r config),
      structs = emissions.map Emission.subject ∨
        ∃ s after kind? e, structs = emissions.map Emission.subject ++ s :: after ∧
          EmissionFails r config s kind? e := by
  induction structs with
  | nil => exact ⟨[], .inl rfl⟩
  | cons s structs ih =>
    cases hkind : selectKind r s with
    | error e => exact ⟨[], .inr ⟨s, structs, _, _, rfl, .kindless hkind⟩⟩
    | ok kind =>
      cases hblock : blockOfKind r config s kind with
      | error e => exact ⟨[], .inr ⟨s, structs, _, _, rfl, .blockless hkind hblock⟩⟩
      | ok block =>
        obtain ⟨emissions, rfl | ⟨s', after, kind?, e, rfl, hfails⟩⟩ := ih
        · exact ⟨⟨s, kind, block, hkind, hblock⟩ :: emissions, .inl rfl⟩
        · exact ⟨⟨s, kind, block, hkind, hblock⟩ :: emissions,
            .inr ⟨s', after, kind?, e, rfl, hfails⟩⟩

/-! ## Reports -/

/-- Structs that are emitted are reported and counted before those behind them. -/
theorem emitAll_append (emissions : List (Emission r config)) (structs : List StructType)
    (totals : Totals) (output : Output) :
    emitAll r config (emissions.map Emission.subject ++ structs) totals output =
      (emitAll r config structs (Emission.totals totals emissions)
        (Emission.output output emissions)).after (emissions.map Emission.entry) := by
  induction emissions generalizing totals output with
  | nil => rfl
  | cons e emissions ih =>
    simp only [List.map_cons, List.cons_append, emitAll, e.chosen, e.emitted, ih,
      Journaled.after]
    rfl

theorem emitAll_of_fails {s : StructType} {kind? : Option ProjectionKind} {e : GenerateError}
    (h : EmissionFails r config s kind? e) (structs : List StructType) (totals : Totals)
    (output : Output) :
    emitAll r config (s :: structs) totals output =
      ⟨kind?.toList.map (.emitting s.qualifiedName), .error e⟩ := by
  cases h with
  | kindless hkind => simp only [emitAll, hkind]; rfl
  | blockless hkind hblock => simp only [emitAll, hkind, hblock]; rfl

/-- If all structs are emitted, they are reported one by one and then the totals. -/
theorem generateJournaled_of_emissions {emissions : List (Emission r config)}
    (h : r.worklist = emissions.map Emission.subject) :
    generateJournaled r config =
      ⟨emissions.map Emission.entry ++
          [.generated (Emission.classes emissions) (Emission.values emissions)],
        .ok (Emission.output .empty emissions)⟩ := by
  have hall := emitAll_append emissions [] ⟨0, 0⟩ .empty
  rw [List.append_nil, Emission.totals_eq] at hall
  rw [generateJournaled, h, hall]
  simp [emitAll, Journaled.after]

/-- If one struct is not emitted, those in front of it are reported one by one, and then that one
if a kind was chosen for it. -/
theorem generateJournaled_of_fails {emissions : List (Emission r config)} {s : StructType}
    {after : List StructType} {kind? : Option ProjectionKind} {e : GenerateError}
    (h : r.worklist = emissions.map Emission.subject ++ s :: after)
    (hfails : EmissionFails r config s kind? e) :
    generateJournaled r config =
      ⟨emissions.map Emission.entry ++ kind?.toList.map (.emitting s.qualifiedName), .error e⟩ := by
  rw [generateJournaled, h, emitAll_append, emitAll_of_fails hfails]
  rfl

/-- Totals are reported exactly if generation succeeds. -/
theorem exists_generated_mem_journal_iff (r : Registry) (config : Config) :
    (∃ classes values, .generated classes values ∈ (generateJournaled r config).journal) ↔
      ∃ output, generate r config = .ok output := by
  rw [generate]
  obtain ⟨emissions, hall | ⟨s, after, kind?, e, hworklist, hfails⟩⟩ :=
    exists_emissions config r.worklist
  · rw [generateJournaled_of_emissions hall]
    refine iff_of_true ⟨Emission.classes emissions, Emission.values emissions, ?_⟩ ⟨_, rfl⟩
    exact List.mem_append_right _ (List.mem_singleton.2 rfl)
  · rw [generateJournaled_of_fails hworklist hfails]
    refine iff_of_false ?_ nofun
    rintro ⟨classes, values, hmem⟩
    rcases List.mem_append.1 hmem with hemitted | hfailing
    · obtain ⟨emission, -, hentry⟩ := List.mem_map.1 hemitted
      cases hentry
    · obtain ⟨kind, -, hentry⟩ := List.mem_map.1 hfailing
      cases hentry

/-! ## From a schema to its texts -/

/-- All that is reported while a schema is loaded and then, if it is, both texts are
generated. -/
def reported (schema : Schema) (overrides : Overrides) (config : Config) : List JournalEntry :=
  (loadJournaled schema overrides config.style).journal ++
    match load schema overrides config.style with
    | .error _ => []
    | .ok r => (generateJournaled r config).journal

/-- The log of loading a schema and generating both texts. -/
def logged (schema : Schema) (overrides : Overrides) (config : Config) : List LogLine :=
  (reported schema overrides config).map JournalEntry.line

/-- What is logged of the declarations that are registered, and of the one that is refused. -/
def registrationLines (overrides : Overrides) (style : NameStyle) (accepted : List Declaration)
    (refused : Option Declaration) : List LogLine :=
  accepted.flatMap (fun d =>
      metLines d ++ [registeredLine d (d.describe overrides style).projectedName]) ++
    refused.toList.flatMap metLines

theorem map_line_registrations (overrides : Overrides) (style : NameStyle)
    (accepted : List Declaration) (refused : Option Declaration) :
    (registrations overrides style accepted refused).map JournalEntry.line =
      registrationLines overrides style accepted refused := by
  simp only [registrations, registrationLines, Declaration.report, List.map_append,
    List.map_flatMap, map_line_remarks]
  rfl

section Reported

variable {schema : Schema} {overrides : Overrides} {accepted : List Declaration}
  {refused : Option Declaration}

theorem reported_of_error {e : SchemaError} (htried : Tried schema.declarations accepted refused)
    (h : load schema overrides config.style = .error e) :
    reported schema overrides config =
      registrations overrides config.style accepted refused := by
  rw [reported, journal_loadJournaled htried, h, List.append_nil, List.append_nil]

theorem reported_of_ok (htried : Tried schema.declarations accepted refused)
    (h : load schema overrides config.style = .ok r) :
    reported schema overrides config =
      registrations overrides config.style accepted refused ++
        .loaded schema.declarationCount r.worklist.length ::
          (generateJournaled r config).journal := by
  rw [reported, journal_loadJournaled htried, h, List.append_assoc, List.singleton_append]

/-- Only loading reports that a registry is loaded. -/
theorem exists_loaded_mem_iff (schema : Schema) (overrides : Overrides) (config : Config) :
    (∃ types worklist, .loaded types worklist ∈ reported schema overrides config) ↔
      ∃ r, load schema overrides config.style = .ok r := by
  obtain ⟨accepted, refused, htried⟩ := exists_tried schema.declarations
  cases h : load schema overrides config.style with
  | error e =>
    rw [reported_of_error htried h]
    refine iff_of_false ?_ nofun
    rintro ⟨types, worklist, hmem⟩
    obtain ⟨d, hd | hd⟩ := eq_of_mem_registrations hmem <;> cases hd
  | ok r =>
    rw [reported_of_ok htried h]
    exact iff_of_true ⟨_, _, List.mem_append_right _ List.mem_cons_self⟩ ⟨r, rfl⟩

/-- Only generation reports totals. -/
theorem exists_generated_mem_iff (schema : Schema) (overrides : Overrides) (config : Config) :
    (∃ classes values, .generated classes values ∈ reported schema overrides config) ↔
      ∃ r output, load schema overrides config.style = .ok r ∧
        generate r config = .ok output := by
  obtain ⟨accepted, refused, htried⟩ := exists_tried schema.declarations
  have hregistrations : ∀ classes values, .generated classes values ∉
      registrations overrides config.style accepted refused := by
    intro classes values hmem
    obtain ⟨d, hd | hd⟩ := eq_of_mem_registrations hmem <;> cases hd
  cases h : load schema overrides config.style with
  | error e =>
    rw [reported_of_error htried h]
    refine iff_of_false ?_ nofun
    rintro ⟨classes, values, hmem⟩
    exact hregistrations classes values hmem
  | ok r =>
    have hmem : ∀ classes values, .generated classes values ∈ reported schema overrides config ↔
        .generated classes values ∈ (generateJournaled r config).journal := by
      intro classes values
      rw [reported_of_ok htried h, List.mem_append, or_iff_right (hregistrations classes values),
        List.mem_cons, or_iff_right nofun]
    simp only [hmem, exists_generated_mem_journal_iff, Except.ok.injEq, exists_eq_left',
      exists_and_left]

/-- What is logged begins with the registrations, and ends with them if the schema is not
loaded. -/
theorem logged_of_error {e : SchemaError} (htried : Tried schema.declarations accepted refused)
    (h : load schema overrides config.style = .error e) :
    logged schema overrides config =
      registrationLines overrides config.style accepted refused := by
  rw [logged, reported_of_error htried h, map_line_registrations]

theorem logged_of_ok (htried : Tried schema.declarations accepted refused)
    (h : load schema overrides config.style = .ok r) :
    logged schema overrides config =
      registrationLines overrides config.style accepted refused ++
        loadedLine schema.declarations.length r.worklist.length ::
          (generateJournaled r config).journal.map JournalEntry.line := by
  rw [logged, reported_of_ok htried h, List.map_append, map_line_registrations, List.map_cons,
    schema.length_declarations]
  rfl

/-- Only loading logs that a registry is loaded. -/
theorem exists_loaded_line_iff (schema : Schema) (overrides : Overrides) (config : Config) :
    (∃ line ∈ logged schema overrides config, line.message = "type registry loaded") ↔
      ∃ r, load schema overrides config.style = .ok r :=
  (exists_line_iff message_line_eq_loaded_iff _).trans
    (exists_loaded_mem_iff schema overrides config)

/-- Only generation logs totals. -/
theorem exists_generated_line_iff (schema : Schema) (overrides : Overrides) (config : Config) :
    (∃ line ∈ logged schema overrides config, line.message = "generated projections") ↔
      ∃ r output, load schema overrides config.style = .ok r ∧
        generate r config = .ok output :=
  (exists_line_iff message_line_eq_generated_iff _).trans
    (exists_generated_mem_iff schema overrides config)

/-- The registry has the described types under the names that are logged. -/
theorem exists_described_of_load (h : load schema overrides config.style = .ok r) {d : Declaration}
    (hd : d ∈ schema.declarations) :
    ∃ type, r.get? d.key = some type ∧ schema.Describes overrides config.style d type ∧
      type.projectedName = (d.describe overrides config.style).projectedName := by
  obtain ⟨⟨key, type⟩, hmem, rfl, hdescribes⟩ :=
    exists_of_mem_of_forall₂ (forall₂_describes_of_load h) hd
  obtain ⟨type', hget, hname⟩ := projectedName_of_load h hd
  rw [Registry.get?, Table.get?_eq_some_iff.2 hmem] at hget
  cases hget
  exact ⟨type, Table.get?_eq_some_iff.2 hmem, hdescribes, hname⟩

/-- Everything that is logged on the way from a schema to its texts.  Declarations are met in
the order of their keys up to the first one whose key is taken: a struct without a field list
is told as such, and behind that, unless it is the one that is refused, the type is told with
its key and its projected name, which is the name that it has in the registry.  Then stands how
many declarations and structs to be emitted there are if, and only if, the registry is loaded.
Then the structs are told in order, each with the kind of the emitter it is given to, up to the
first one that fails, and that one too unless no kind can be chosen for it.  At the end stands
how many structs are emitted as classes and as plain data if, and only if, all of them are. -/
theorem journal_verdict (schema : Schema) (overrides : Overrides) (config : Config) :
    (∃ accepted refused told, Tried schema.declarations accepted refused ∧
      told = accepted.flatMap (fun d =>
          metLines d ++ [registeredLine d (d.describe overrides config.style).projectedName]) ++
        refused.toList.flatMap metLines ∧
      (∀ e, load schema overrides config.style = .error e →
        logged schema overrides config = told) ∧
      ∀ r, load schema overrides config.style = .ok r →
        accepted = schema.declarations ∧ refused = none ∧
        (∀ d ∈ accepted, ∃ type, r.get? d.key = some type ∧
          schema.Describes overrides config.style d type ∧
          type.projectedName = (d.describe overrides config.style).projectedName) ∧
        r.worklist.length = (schema.emittedNames overrides).length ∧
        ∃ emissions : List (Emission r config),
          (∀ output, generate r config = .ok output →
            r.worklist = emissions.map Emission.subject ∧
            output = (emissions.map Emission.block).foldl Output.write .empty ∧
            logged schema overrides config =
              told ++ loadedLine schema.declarations.length r.worklist.length ::
                (emissions.map (fun e => emittingLine e.subject.qualifiedName e.kind) ++
                  [generatedLine (Emission.classes emissions) (Emission.values emissions)]) ∧
            Emission.classes emissions + Emission.values emissions = r.worklist.length ∧
            Emission.classes emissions = emissions.countP (·.block.native ≠ []) ∧
            Emission.values emissions = emissions.countP (·.block.native = [])) ∧
          ∀ e, generate r config = .error e →
            ∃ s after kind?, r.worklist = emissions.map Emission.subject ++ s :: after ∧
              EmissionFails r config s kind? e ∧
              logged schema overrides config =
                told ++ loadedLine schema.declarations.length r.worklist.length ::
                  (emissions.map (fun e => emittingLine e.subject.qualifiedName e.kind) ++
                    kind?.toList.map (emittingLine s.qualifiedName))) ∧
    schema.declarations.map Declaration.key = schema.keys ∧
    ((∃ line ∈ logged schema overrides config, line.message = "type registry loaded") ↔
      ∃ r, load schema overrides config.style = .ok r) ∧
    ((∃ line ∈ logged schema overrides config, line.message = "generated projections") ↔
      ∃ r output, load schema overrides config.style = .ok r ∧
        generate r config = .ok output) := by
  refine ⟨?_, schema.map_key_declarations, exists_loaded_line_iff schema overrides config,
    exists_generated_line_iff schema overrides config⟩
  obtain ⟨accepted, refused, htried⟩ := exists_tried schema.declarations
  refine ⟨accepted, refused, registrationLines overrides config.style accepted refused, htried,
    rfl, fun e h => logged_of_error htried h, fun r h => ?_⟩
  obtain ⟨haccepted, hrefused⟩ := htried.eq_of_load h
  have hlength : r.worklist.length = (schema.emittedNames overrides).length := by
    have hnames := congrArg List.length (map_projectedName_of_load h)
    rwa [List.length_map, List.length_map] at hnames
  refine ⟨haccepted, hrefused, fun d hd => exists_described_of_load h (haccepted ▸ hd), hlength, ?_⟩
  have hlogged := logged_of_ok htried h
  obtain ⟨emissions, hall | ⟨s, after, kind?, e, hworklist, hfails⟩⟩ :=
    exists_emissions config r.worklist
  · have hjournal := generateJournaled_of_emissions hall
    refine ⟨emissions, fun output houtput => ?_, fun e he => ?_⟩
    · rw [generate, hjournal] at houtput
      cases houtput
      refine ⟨hall, rfl, ?_, ?_, ?_, ?_⟩
      · rw [hlogged, hjournal, List.map_append, Emission.map_line_entry]
        rfl
      · rw [hall, List.length_map, Emission.classes_add_values]
      · exact Emission.classes_eq emissions
      · exact Emission.values_eq emissions
    · rw [generate, hjournal] at he
      cases he
  · have hjournal := generateJournaled_of_fails hworklist hfails
    refine ⟨emissions, fun output houtput => ?_, fun e' he => ?_⟩
    · rw [generate, hjournal] at houtput
      cases houtput
    · rw [generate, hjournal] at he
      cases he
      refine ⟨s, after, kind?, hworklist, hfails, ?_⟩
      rw [hlogged, hjournal, List.map_append, Emission.map_line_entry, List.map_map]
      simp only [Function.comp_def, line_emitting]

end Reported

/-- The log of the box that extends a variant. -/
def variantLog : List LogLine :=
  [⟨.debug, "registered type", [("name", .text "FLOAT"), ("projected", .text "FLOAT")]⟩,
    ⟨.warn, "struct has no field list, treating as union", [("name", .text "Geo::VARIANT")]⟩,
    ⟨.debug, "registered type",
      [("name", .text "Geo::VARIANT"), ("projected", .text "CanvasVariant")]⟩,
    ⟨.debug, "registered type", [("name", .text "Geo::BOX"), ("projected", .text "CanvasBox")]⟩,
    ⟨.info, "type registry loaded", [("types", .count 3), ("worklist", .count 1)]⟩,
    ⟨.debug, "emitting struct", [("name", .text "Geo::BOX"), ("projection", .text "ValueType")]⟩,
    ⟨.info, "generated projections", [("classes", .count 0), ("values", .count 1)]⟩]

/-- A primitive, and a struct without a field list that has the same name. -/
def twoFloats : Schema :=
  ⟨["FLOAT"], [⟨"FLOAT", none, none⟩], []⟩

/-- The log of the two, which ends where the name is taken. -/
def twoFloatsLog : List LogLine :=
  [⟨.debug, "registered type", [("name", .text "FLOAT"), ("projected", .text "FLOAT")]⟩,
    ⟨.warn, "struct has no field list, treating as union", [("name", .text "FLOAT")]⟩]

/-- The log of a run to the end, and that of a run which ends where a name is taken. -/
theorem journal_verdict_variant :
    logged variantSchema variantOverrides default = variantLog ∧
      (∃ r output, load variantSchema variantOverrides default = .ok r ∧
        generate r default = .ok output) ∧
      logged twoFloats .empty default = twoFloatsLog ∧
      ¬ ∃ r, load twoFloats .empty default = .ok r := by
  have hlogged : logged variantSchema variantOverrides default = variantLog := by decide +kernel
  have hrefused : logged twoFloats .empty default = twoFloatsLog := by decide +kernel
  obtain ⟨-, -, -, hgenerated⟩ := journal_verdict variantSchema variantOverrides default
  obtain ⟨-, -, hloaded, -⟩ := journal_verdict twoFloats .empty default
  refine ⟨hlogged, hgenerated.1 ?_, hrefused, fun hex => ?_⟩
  · rw [hlogged]
    exact ⟨generatedLine 0 1, by decide, rfl⟩
  · have hnone : ∀ line ∈ twoFloatsLog, line.message ≠ "type registry loaded" := by decide
    obtain ⟨line, hline, hmessage⟩ := hloaded.2 hex
    exact hnone line (hrefused ▸ hline) hmessage

end TypeProjection.Projection
