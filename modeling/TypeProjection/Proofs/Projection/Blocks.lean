/-
  Proofs/Projection/Blocks.lean --- both texts as the blocks of single structs.

  All blocks are level, so a block reads the same wherever it is written at the
  outermost depth.  Hence both texts are the blocks of the structs on the
  worklist, each as its own emitter writes it on empty sheets, one behind the
  other (`generate_eq_join_own`).
-/
import TypeProjection.Proofs.Layout.Lines
import TypeProjection.Proofs.Projection.Emission

set_option autoImplicit false

namespace TypeProjection.Projection

open Layout

variable {r : Registry} {config : Config} {s : StructType}

/-! ## Emitters are level -/

theorem level_propertyLines (f : TypedField) : Level (propertyLines f) :=
  .cons (.line _) (.line _)

theorem level_properties (fields : List TypedField) :
    Level (List.intercalate [.blank] (fields.map propertyLines)) :=
  .intercalate .blank (List.forall_mem_map.2 fun f _ => level_propertyLines f)

theorem level_interfaceStrokes (s : StructType) (guid : String) (fields : List TypedField) :
    Level (interfaceStrokes s guid fields) := by
  have hnames : Level [.line ("interface " ++ s.interfaceName ++ ";"),
      .line ("runtimeclass " ++ s.projectedName ++ ";"), .blank] :=
    .cons (.line _) (.cons (.line _) .blank)
  have htwo : ∀ a b : String, Level [.line a, .line b] := fun a b => .cons (.line a) (.line b)
  unfold interfaceStrokes
  refine .append (.append (.append (.append (.append (.append ?_ ?_) ?_) ?_) ?_) ?_) .blank
  · exact hnames
  · exact htwo _ _
  · exact (level_properties fields).braced _
  · exact .blank
  · exact htwo _ _
  · exact (Level.line _).braced _

theorem level_handOutLine (f : TypedField) : Level [handOutLine f] := by
  unfold handOutLine
  split <;> exact .line _

/-- The body of the accessor that reads a field. -/
def getterBody (f : TypedField) : List Stroke :=
  .line "if (!value)" :: nested [.line "return E_INVALIDARG;", .blank] ++
    [handOutLine f, .line "return S_OK;"]

/-- The body of the accessor that writes a field. -/
def setterBody (f : TypedField) : List Stroke :=
  [.line (f.field.memberName ++ " = value;"), .line "return S_OK;"]

theorem level_getterBody (f : TypedField) : Level (getterBody f) := by
  refine .append (.cons (.line _) ?_) (.cons (level_handOutLine f) (.line _))
  exact .nested (.cons (.line _) .blank)

theorem level_setterBody (f : TypedField) : Level (setterBody f) :=
  .cons (.line _) (.line _)

theorem level_getterStrokes (f : TypedField) : Level (getterStrokes f) :=
  .cons (.line _) ((level_getterBody f).braced _)

theorem level_setterStrokes (f : TypedField) : Level (setterStrokes f) :=
  .cons (.line _) ((level_setterBody f).braced _)

theorem level_accessorStrokes (f : TypedField) : Level (accessorStrokes f) :=
  .append (.append (.append (level_getterStrokes f) .blank) (level_setterStrokes f)) .blank

theorem level_accessors (fields : List TypedField) : Level (fields.flatMap accessorStrokes) :=
  .flatMap fun f _ => level_accessorStrokes f

theorem level_members (fields : List TypedField) : Level (fields.map memberLine) :=
  .map fun _ _ => .line _

/-- The lines that name the class at run time. -/
def identityStrokes (config : Config) (s : StructType) : List Stroke :=
  [.line ("InspectableClass(L\"" ++ config.runtimeClassName s.projectedName ++ "\", BaseTrust);"),
    .blank]

theorem level_identityStrokes (config : Config) (s : StructType) :
    Level (identityStrokes config s) :=
  .cons (.line _) .blank

theorem level_wrapperStrokes (config : Config) (s : StructType) (fields : List TypedField) :
    Level (wrapperStrokes config s fields) := by
  unfold wrapperStrokes
  refine .append (.append (.append ?_ ?_) ?_) ?_
  · exact .append (.cons (.line _) (.line _)) (level_identityStrokes config s).nested
  · exact .cons (.line _) (level_accessors fields).nested
  · exact .cons (.line _) (level_members fields).nested
  · exact .cons (.line _) .blank

theorem level_valueStrokes (s : StructType) (fields : List TypedField) :
    Level (valueStrokes s fields) := by
  have hfields : Level (fields.map valueFieldLine) := .map fun _ _ => .line _
  unfold valueStrokes
  refine .append (.append (.cons (.line _) (.line _)) ?_) .blank
  exact hfields.braced _

/-- A block whose strokes are level on both sheets. -/
def Block.IsLevel (block : Block) : Prop :=
  Level block.idl ∧ Level block.native

theorem isLevel_of_blockOfKind {kind : ProjectionKind} {block : Block}
    (h : blockOfKind r config s kind = .ok block) : block.IsLevel := by
  obtain ⟨fields, -, ⟨-, guid, -, rfl⟩ | ⟨-, rfl⟩⟩ := blockOfKind_eq_ok_iff.1 h
  · exact ⟨level_interfaceStrokes s guid fields, level_wrapperStrokes config s fields⟩
  · exact ⟨level_valueStrokes s fields, .nil⟩

theorem isLevel_of_structBlock {block : Block} (h : structBlock r config s = .ok block) :
    block.IsLevel := by
  obtain ⟨kind, -, hblock⟩ := structBlock_eq_ok_iff_kind.1 h
  exact isLevel_of_blockOfKind hblock

/-! ## Writing level blocks -/

/-- What a block writes on empty sheets. -/
theorem write_empty (block : Block) :
    Output.empty.write block =
      ⟨⟨unlines (linesAt 0 block.idl), depthAfter 0 block.idl⟩,
        ⟨unlines (linesAt 0 block.native), depthAfter 0 block.native⟩⟩ := by
  simp only [Output.write, write_eq, Output.empty, Sheet.empty, String.empty_append]

/-- Level blocks that are written one after the other stand one behind the other
in both texts, as each would be written on its own. -/
theorem foldl_write_of_level {blocks : List Block} (h : ∀ block ∈ blocks, block.IsLevel)
    (idl native : String) :
    blocks.foldl Output.write ⟨⟨idl, 0⟩, ⟨native, 0⟩⟩ =
      ⟨⟨idl ++ unlines (blocks.flatMap fun b => linesAt 0 b.idl), 0⟩,
        ⟨native ++ unlines (blocks.flatMap fun b => linesAt 0 b.native), 0⟩⟩ := by
  induction blocks generalizing idl native with
  | nil => simp
  | cons block blocks ih =>
    obtain ⟨hidl, hnative⟩ := h block List.mem_cons_self
    rw [List.foldl_cons, Output.write, write_eq, write_eq, depthAfter_of_level hidl,
      depthAfter_of_level hnative, ih fun b hb => h b (List.mem_cons_of_mem _ hb)]
    simp [String.append_assoc]

/-- Both texts are the lines of the blocks of the worklist, in order. -/
theorem exists_blocks_of_generate {output : Output} (h : generate r config = .ok output) :
    ∃ blocks : List Block,
      List.Forall₂ (fun s block => structBlock r config s = .ok block) r.worklist blocks ∧
      (∀ block ∈ blocks, block.IsLevel) ∧
      output = ⟨⟨unlines (blocks.flatMap fun b => linesAt 0 b.idl), 0⟩,
        ⟨unlines (blocks.flatMap fun b => linesAt 0 b.native), 0⟩⟩ := by
  rw [generate_eq] at h
  cases hblocks : r.worklist.mapM (structBlock r config) with
  | error e => simp [hblocks, Except.map] at h
  | ok blocks =>
    have hall : List.Forall₂ (fun s b => structBlock r config s = .ok b) r.worklist blocks :=
      mapM_eq_ok_iff.1 hblocks
    have hlevel : ∀ block ∈ blocks, block.IsLevel := by
      intro block hblock
      obtain ⟨s, -, hs⟩ := exists_of_mem_of_forall₂ hall.flip hblock
      exact isLevel_of_structBlock hs
    have houtput := (Except.ok.inj (hblocks ▸ h)).symm.trans (foldl_write_of_level hlevel "" "")
    simp only [String.empty_append] at houtput
    exact ⟨blocks, hall, hlevel, houtput⟩

/-! ## The texts -/

/-- What the emitter of a struct's own kind writes on empty sheets. -/
inductive OwnOutput (r : Registry) (config : Config) (s : StructType) (own : Output) : Prop where
  /-- a struct with an interface among its fields is emitted as a class -/
  | runtimeClass (holds : r.HoldsInterface s)
    (emitted : emitClass r config s .empty = .ok own)
  /-- any other struct is emitted as plain data -/
  | valueType (holdsNone : ¬ r.HoldsInterface s) (emitted : emitValue r s .empty = .ok own)

theorem ownOutput_of_structBlock {block : Block} (h : structBlock r config s = .ok block) :
    OwnOutput r config s (Output.empty.write block) := by
  obtain ⟨fields, hfields, ⟨hholds, guid, hguid, rfl⟩ | ⟨hnone, rfl⟩⟩ :=
    structBlock_eq_ok_iff.1 h
  · refine .runtimeClass hholds ?_
    simp only [emitClass, classBlock, hguid, hfields]
    rfl
  · refine .valueType hnone ?_
    simp only [emitValue, valueBlock, hfields]
    rfl

/-- Only classes write native text, and they always do. -/
theorem native_eq_nil_iff {block : Block} (h : structBlock r config s = .ok block) :
    linesAt 0 block.native = [] ↔ ¬ r.HoldsInterface s := by
  obtain ⟨fields, -, ⟨hholds, guid, -, rfl⟩ | ⟨hnone, rfl⟩⟩ := structBlock_eq_ok_iff.1 h
  · have hlines : linesAt 0 (wrapperStrokes config s fields) ≠ [] := by
      simp only [wrapperStrokes, List.cons_append, linesAt, ne_eq, reduceCtorEq,
        not_false_eq_true]
    exact iff_of_false hlines (not_not_intro hholds)
  · exact iff_of_true rfl hnone

/-- Both texts are the outputs of the structs on the worklist, each as its own
emitter writes it on empty sheets, in order and with nothing between them; both
sheets end at the outermost depth.  There is native text only if some struct is
a class. -/
theorem generate_eq_join_own {r : Registry} {config : Config} {output : Output}
    (h : generate r config = .ok output) :
    ∃ own : List Output,
      List.Forall₂ (OwnOutput r config) r.worklist own ∧
      (∀ o ∈ own, o.idl.depth = 0 ∧ o.native.depth = 0) ∧
      output.idl = ⟨String.join (own.map (·.idl.text)), 0⟩ ∧
      output.native = ⟨String.join (own.map (·.native.text)), 0⟩ ∧
      (output.native.text = "" ↔ ∀ s ∈ r.worklist, ¬ r.HoldsInterface s) := by
  obtain ⟨blocks, hall, hlevel, rfl⟩ := exists_blocks_of_generate h
  refine ⟨blocks.map Output.empty.write, ?_, ?_, ?_, ?_, ?_⟩
  · rw [List.forall₂_map_right_iff]
    exact hall.imp fun _ _ => ownOutput_of_structBlock
  · intro o ho
    obtain ⟨block, hblock, rfl⟩ := List.mem_map.1 ho
    obtain ⟨hidl, hnative⟩ := hlevel block hblock
    rw [write_empty]
    exact ⟨depthAfter_of_level hidl 0, depthAfter_of_level hnative 0⟩
  · simp only [List.map_map, ← join_map_unlines, Function.comp_def, write_empty]
  · simp only [List.map_map, ← join_map_unlines, Function.comp_def, write_empty]
  · rw [unlines_eq_empty_iff, List.flatMap_eq_nil_iff]
    constructor
    · intro hempty s hs
      obtain ⟨block, hblock, hsb⟩ := exists_of_mem_of_forall₂ hall hs
      exact (native_eq_nil_iff hsb).1 (hempty block hblock)
    · intro hnone block hblock
      obtain ⟨s, hs, hsb⟩ := exists_of_mem_of_forall₂ hall.flip hblock
      exact (native_eq_nil_iff hsb).2 (hnone s hs)

/-- A point, and a shape that extends it and has a brush; the fields of the shape
are given. -/
def shapeTypes (fields : List StructField) : Table ProjectedType where
  entries :=
    [("Float", .primitive ⟨"FLOAT", "float", none⟩),
      ("IBrush", .interface ⟨"IBrush", "IBrush", some "Geo."⟩),
      ("Shape", .struct { (default : StructType) with
        qualifiedName := "Shape", projectedName := "Shape", interfaceName := "IShape"
        declaredFields := [⟨"Brush", "IBrush", "m_Brush", "Brush"⟩], fields
        parent := some "Point", guid := some "0a1b", included := true }),
      ("Point", .struct { (default : StructType) with
        qualifiedName := "Point", projectedName := "Point", interfaceName := "IPoint"
        declaredFields := [⟨"X", "Float", "m_X", "X"⟩], fields := [⟨"X", "Float", "m_X", "X"⟩]
        included := true })]
  keys_nodup := by simp

/-- The shape inherits the field of the point. -/
def shapeRegistry : Registry :=
  ⟨shapeTypes [⟨"X", "Float", "m_X", "X"⟩, ⟨"Brush", "IBrush", "m_Brush", "Brush"⟩]⟩

theorem generate_eq_join_own_shape :
    ∃ output own, generate shapeRegistry default = .ok output ∧
      List.Forall₂ (OwnOutput shapeRegistry default) shapeRegistry.worklist own ∧
      own.length = 2 ∧ output.idl = ⟨String.join (own.map (·.idl.text)), 0⟩ ∧
      output.native.text ≠ "" := by
  obtain ⟨output, h⟩ : ∃ output, generate shapeRegistry default = .ok output := ⟨_, rfl⟩
  obtain ⟨own, hown, -, hidl, -, hempty⟩ := generate_eq_join_own h
  refine ⟨output, own, h, hown, hown.length_eq.symm, hidl, ?_⟩
  rw [ne_eq, hempty]
  decide

end TypeProjection.Projection
