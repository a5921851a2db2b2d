/-
  Proofs/Projection/Sinks.lean --- what an emitter does to the sheets it is given.

  An emitter works on both sheets stroke by stroke, and what it has written when it is refused
  stays written.  Nevertheless a refused emitter leaves the sheets as they were, because it
  asks for everything that can be missing before the first stroke (`on_emitter`).  Otherwise
  it comes back to the depths at which it began, and what it adds to a sheet is what it writes
  on an empty one, pushed to the right (`emitted_in_place`).
-/
import TypeProjection.Proofs.Layout.Shifted
import TypeProjection.Proofs.Projection.OneLine

set_option autoImplicit false

namespace TypeProjection.Projection

open Layout

variable {r : Registry} {config : Config} {s : StructType} {kind : ProjectionKind}

/-! ## Working stroke by stroke -/

/-- A program on both sheets that may be refused.  A refusal undoes nothing. -/
abbrev Emitter :=
  ExceptT GenerateError (StateM Output)

namespace Emitter

variable {α β : Type}

/-- What a program gives on two sheets, and what is on them afterwards. -/
def on (program : Emitter α) (output : Output) : Except GenerateError α × Output :=
  program.run.run output

/-- One stroke on the interface definitions. -/
def idl (stroke : Stroke) : Emitter Unit :=
  modify fun output => { output with idl := output.idl.step stroke }

/-- One stroke on the native text. -/
def native (stroke : Stroke) : Emitter Unit :=
  modify fun output => { output with native := output.native.step stroke }

/-- The identity of a struct, which a class needs. -/
def identity (s : StructType) : Emitter String :=
  match s.guid with
  | some guid => pure guid
  | none => throw (.missingGuid s.qualifiedName)

/-- A field with its type, which must be registered. -/
def typed (r : Registry) (s : StructType) (field : StructField) : Emitter TypedField :=
  match r.resolveField s field with
  | .ok type => pure ⟨field, type⟩
  | .error e => throw (.schema e)

/-- The steps that emit a struct as a class. -/
def runtimeClass (r : Registry) (config : Config) (s : StructType) : Emitter Unit := do
  let guid ← identity s
  let fields ← s.fields.mapM (typed r s)
  forM (interfaceStrokes s guid fields) idl
  forM (wrapperStrokes config s fields) native

/-- The steps that emit a struct as plain data. -/
def valueType (r : Registry) (s : StructType) : Emitter Unit := do
  let fields ← s.fields.mapM (typed r s)
  forM (valueStrokes s fields) idl

/-- The steps that emit a struct in one of both ways. -/
def ofKind (r : Registry) (config : Config) (s : StructType) : ProjectionKind → Emitter Unit
  | .runtimeClass => runtimeClass r config s
  | .valueType => valueType r s

/-! ## Runs -/

theorem on_pure (a : α) (output : Output) : (pure a : Emitter α).on output = (.ok a, output) :=
  rfl

theorem on_throw (e : GenerateError) (output : Output) :
    (throw e : Emitter α).on output = (.error e, output) :=
  rfl

/-- What follows works on what was left, unless there was a refusal. -/
theorem on_bind (program : Emitter α) (next : α → Emitter β) (output : Output) :
    (program >>= next).on output =
      match program.on output with
      | (.ok a, after) => (next a).on after
      | (.error e, after) => (.error e, after) := by
  unfold on
  rw [ExceptT.run_bind, StateT.run_bind]
  cases program.run.run output with
  | mk result after => cases result <;> rfl

theorem on_idl (stroke : Stroke) (output : Output) :
    (idl stroke).on output = (.ok (), { output with idl := output.idl.step stroke }) :=
  rfl

theorem on_native (stroke : Stroke) (output : Output) :
    (native stroke).on output = (.ok (), { output with native := output.native.step stroke }) :=
  rfl

theorem on_forM_idl (strokes : List Stroke) (output : Output) :
    (forM strokes idl : Emitter PUnit).on output =
      (.ok (), { output with idl := output.idl.write strokes }) := by
  induction strokes generalizing output with
  | nil => rfl
  | cons stroke strokes ih =>
    rw [List.forM_cons, on_bind, on_idl]
    exact ih _

theorem on_forM_native (strokes : List Stroke) (output : Output) :
    (forM strokes native : Emitter PUnit).on output =
      (.ok (), { output with native := output.native.write strokes }) := by
  induction strokes generalizing output with
  | nil => rfl
  | cons stroke strokes ih =>
    rw [List.forM_cons, on_bind, on_native]
    exact ih _

/-- To look something up for every member leaves both sheets alone, if looking it up for one
member does. -/
theorem on_mapM {lookUp : α → Except SchemaError β} {program : α → Emitter β}
    (h : ∀ x output, (program x).on output = ((lookUp x).mapError .schema, output))
    (xs : List α) (output : Output) :
    (xs.mapM program).on output = ((xs.mapM lookUp).mapError .schema, output) := by
  induction xs with
  | nil => rfl
  | cons x xs ih =>
    rw [List.mapM_cons, on_bind, h, mapM_cons_eq]
    cases lookUp x with
    | error e => rfl
    | ok y =>
      simp only [Except.mapError, on_bind, ih]
      cases xs.mapM lookUp <;> rfl

theorem on_typedFields (output : Output) :
    (s.fields.mapM (typed r s)).on output = ((typedFields r s).mapError .schema, output) := by
  refine on_mapM ?_ s.fields output
  intro field output
  unfold typed
  cases r.resolveField s field with
  | error e => exact on_throw (.schema e) output
  | ok type => exact on_pure (TypedField.mk field type) output

end Emitter

/-! ## Refusals -/

/-- Both texts with a struct emitted in one of both ways. -/
def emit (r : Registry) (config : Config) (s : StructType) (output : Output) :
    ProjectionKind → Except GenerateError Output
  | .runtimeClass => emitClass r config s output
  | .valueType => emitValue r s output

theorem emit_eq (output : Output) :
    emit r config s output kind = (blockOfKind r config s kind).map output.write := by
  cases kind <;> rfl

/-- Going stroke by stroke gives what is written as a block, and a refusal comes before the
first stroke. -/
theorem on_emitter (output : Output) :
    (Emitter.ofKind r config s kind).on output =
      match emit r config s output kind with
      | .ok after => (.ok (), after)
      | .error e => (.error e, output) := by
  cases kind with
  | runtimeClass =>
    unfold Emitter.ofKind Emitter.runtimeClass Emitter.identity emit emitClass classBlock
    rw [Emitter.on_bind]
    cases s.guid with
    | none => rfl
    | some guid =>
      simp only [Emitter.on_pure, Emitter.on_bind, Emitter.on_typedFields]
      cases typedFields r s with
      | error e => rfl
      | ok fields =>
        simp only [Except.mapError, Emitter.on_forM_idl, Emitter.on_forM_native]
        rfl
  | valueType =>
    unfold Emitter.ofKind Emitter.valueType emit emitValue valueBlock
    rw [Emitter.on_bind, Emitter.on_typedFields]
    cases typedFields r s with
    | error e => rfl
    | ok fields =>
      simp only [Except.mapError, Emitter.on_forM_idl]
      rfl

/-! ## Sheets -/

/-- What is on two sheets after a struct was emitted, next to what is on two empty ones. -/
structure EmittedOnto (r : Registry) (config : Config) (s : StructType) (kind : ProjectionKind)
    (output fresh after : Output) : Prop where
  /-- Both sheets are at the depths at which they were. -/
  depths : after.idl.depth = output.idl.depth ∧ after.native.depth = output.native.depth
  /-- What was written before is still there, in front of what was added. -/
  added : (∃ idl, after.idl.text = output.idl.text ++ idl) ∧
    ∃ wrapper, after.native.text = output.native.text ++ wrapper
  /-- Plain data has nothing to do with the native text. -/
  untouched : kind = .valueType → after.native = output.native
  /-- If nothing that is written ends a line, what was added is what an empty sheet gets,
  pushed to the right by the depth. -/
  pushed : OneLineStruct r s → OneLine config.subnamespace →
    after.idl.text = output.idl.text ++ shifted output.idl.depth fresh.idl.text ∧
      after.native.text = output.native.text ++ shifted output.native.depth fresh.native.text

theorem emittedOnto_write {block : Block} (h : blockOfKind r config s kind = .ok block)
    (output : Output) :
    EmittedOnto r config s kind output (Output.empty.write block) (output.write block) where
  depths := by
    obtain ⟨hidl, hnative⟩ := isLevel_of_blockOfKind h
    simp only [Output.write, write_eq, depthAfter_of_level hidl, depthAfter_of_level hnative,
      and_self]
  added := by
    simp only [Output.write, write_eq]
    exact ⟨⟨_, rfl⟩, _, rfl⟩
  untouched hkind := by
    obtain ⟨fields, -, ⟨hclass, -⟩ | ⟨-, rfl⟩⟩ := blockOfKind_eq_ok_iff.1 h
    · cases hkind.symm.trans hclass
    · rfl
  pushed hs hconfig := by
    obtain ⟨hidl, hnative⟩ := isLevel_of_blockOfKind h
    have hidlLines := oneLines_idl_of_blockOfKind h hs
    have hnativeLines := oneLines_native_of_blockOfKind h hs hconfig
    exact ⟨congrArg Sheet.text (write_of_level hidl hidlLines output.idl),
      congrArg Sheet.text (write_of_level hnative hnativeLines output.native)⟩

/-- Whatever is on the sheets: if an emitter is refused, it leaves them as they were.  If it
is not, it would not be refused on empty sheets either, and what it does to the sheets can be
told from what it writes there. -/
theorem emitted_in_place (r : Registry) (config : Config) (s : StructType)
    (kind : ProjectionKind) (output : Output) :
    (∀ e, emit r config s output kind = .error e →
      (Emitter.ofKind r config s kind).on output = (.error e, output)) ∧
    ∀ after, emit r config s output kind = .ok after →
      (Emitter.ofKind r config s kind).on output = (.ok (), after) ∧
        ∃ fresh, emit r config s .empty kind = .ok fresh ∧
          EmittedOnto r config s kind output fresh after := by
  refine ⟨fun e h => ?_, fun after h => ⟨?_, ?_⟩⟩
  · rw [on_emitter, h]
  · rw [on_emitter, h]
  · rw [emit_eq, map_eq_ok_iff] at h
    obtain ⟨block, hblock, rfl⟩ := h
    refine ⟨Output.empty.write block, ?_, emittedOnto_write hblock output⟩
    rw [emit_eq, hblock]
    rfl

/-- The interface definitions of the point as plain data behind another text, two levels
deep. -/
def pointDefinition : String :=
  "idl\n" ++
  "        [version(VERSION)]\n" ++
  "        typedef struct Point\n" ++
  "        \x7b\n" ++
  "            float X;\n" ++
  "        \x7d Point;\n" ++
  "\n"

/-- The shape and the point are emitted behind other texts, two levels and one level deep. -/
theorem emitted_in_place_shape :
    (∃ s ∈ shapeRegistry.worklist, ∃ fresh after : Output,
      emit shapeRegistry default s .empty .runtimeClass = .ok fresh ∧
      (Emitter.ofKind shapeRegistry default s .runtimeClass).on ⟨⟨"idl\n", 2⟩, ⟨"native\n", 1⟩⟩ =
        (.ok (), after) ∧
      after = ⟨⟨"idl\n" ++ shifted 2 fresh.idl.text, 2⟩,
        ⟨"native\n" ++ shifted 1 fresh.native.text, 1⟩⟩) ∧
    ∃ s ∈ shapeRegistry.worklist,
      (Emitter.ofKind shapeRegistry default s .valueType).on ⟨⟨"idl\n", 2⟩, ⟨"native\n", 1⟩⟩ =
        (.ok (), ⟨⟨pointDefinition, 2⟩, ⟨"native\n", 1⟩⟩) := by
  constructor
  · obtain ⟨s, hs, hwritten, hemitted⟩ : ∃ s ∈ shapeRegistry.worklist,
        OneLineStruct shapeRegistry s ∧
          (emit shapeRegistry default s ⟨⟨"idl\n", 2⟩, ⟨"native\n", 1⟩⟩
            .runtimeClass).toOption.isSome := by
      decide
    obtain ⟨after, hafter⟩ := Option.isSome_iff_exists.1 hemitted
    obtain ⟨hon, fresh, hfresh, honto⟩ :=
      (emitted_in_place shapeRegistry default s .runtimeClass _).2 after (eq_ok_of_toOption hafter)
    obtain ⟨hidl, hnative⟩ := honto.pushed hwritten (by decide)
    obtain ⟨hidlDepth, hnativeDepth⟩ := honto.depths
    refine ⟨s, hs, fresh, after, hfresh, hon, ?_⟩
    obtain ⟨⟨idl, depth⟩, ⟨native, depth'⟩⟩ := after
    rw [show idl = _ from hidl, show native = _ from hnative, show depth = _ from hidlDepth,
      show depth' = _ from hnativeDepth]
  · obtain ⟨s, hs, hwritten, hemitted, hshown⟩ : ∃ s ∈ shapeRegistry.worklist,
        OneLineStruct shapeRegistry s ∧
          (emit shapeRegistry default s ⟨⟨"idl\n", 2⟩, ⟨"native\n", 1⟩⟩
            .valueType).toOption.isSome ∧
          (emit shapeRegistry default s .empty .valueType).toOption.map
            (fun fresh => "idl\n" ++ shifted 2 fresh.idl.text) = some pointDefinition := by
      decide +kernel
    obtain ⟨after, hafter⟩ := Option.isSome_iff_exists.1 hemitted
    obtain ⟨hon, fresh, hfresh, honto⟩ :=
      (emitted_in_place shapeRegistry default s .valueType _).2 after (eq_ok_of_toOption hafter)
    rw [hfresh] at hshown
    refine ⟨s, hs, ?_⟩
    obtain ⟨⟨idl, depth⟩, native⟩ := after
    rw [hon, show idl = _ from (honto.pushed hwritten (by decide)).1.trans (Option.some.inj hshown),
      show depth = _ from honto.depths.1, show native = _ from honto.untouched rfl]

end TypeProjection.Projection
