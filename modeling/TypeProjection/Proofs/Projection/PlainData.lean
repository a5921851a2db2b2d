/-
  Proofs/Projection/PlainData.lean --- how far plain data is plain.

  The kind of a struct is chosen from the types of its own fields, and a struct among them
  counts as a value however it is emitted itself.  So plain data may reach an interface
  through a struct that it holds (`value_holds_class_figures`), but only through one that
  holds the interface itself and is therefore never plain data; and wherever a struct is
  the type of a field, the field is written by value (`generate_plainData`).
-/
import TypeProjection.Proofs.Projection.Sections
import TypeProjection.Proofs.Projection.Shown
import TypeProjection.Proofs.Projection.Worklist

set_option autoImplicit false

namespace TypeProjection

variable {r : Registry} {s t : StructType}

/-! ## What is reached through fields -/

/-- The types that are reached from a struct by way of the types of fields, through any number
of structs. -/
inductive Registry.Reaches (r : Registry) (s : StructType) : ProjectedType → Prop where
  /-- the type of a field of the struct -/
  | field {f : StructField} {type : ProjectedType} (hf : f ∈ s.fields)
    (hget : r.get? f.typeName = some type) : Reaches r s type
  /-- the type of a field of a struct that is reached -/
  | through {t : StructType} {f : StructField} {type : ProjectedType}
    (ht : Reaches r s (.struct t)) (hf : f ∈ t.fields) (hget : r.get? f.typeName = some type) :
    Reaches r s type

/-- An interface that is reached is the type of a field of the struct itself, or of a struct
that is reached. -/
theorem Registry.Reaches.exists_holder {names : NamedType} (h : r.Reaches s (.interface names)) :
    ∃ t, (t = s ∨ r.Reaches s (.struct t)) ∧
      ∃ f ∈ t.fields, r.get? f.typeName = some (.interface names) := by
  cases h with
  | field hf hget => exact ⟨s, .inl rfl, _, hf, hget⟩
  | through ht hf hget => exact ⟨_, .inr ht, _, hf, hget⟩

/-- A struct that holds no interface reaches one exactly if it reaches a struct that does. -/
theorem Registry.exists_reaches_interface_iff (hs : ¬ r.HoldsInterface s) :
    (∃ names, r.Reaches s (.interface names)) ↔
      ∃ t, r.Reaches s (.struct t) ∧ r.HoldsInterface t := by
  constructor
  · rintro ⟨names, h⟩
    obtain ⟨t, rfl | ht, f, hf, hget⟩ := h.exists_holder
    · exact absurd ⟨f, hf, names, hget⟩ hs
    · exact ⟨t, ht, f, hf, names, hget⟩
  · rintro ⟨t, ht, f, hf, names, hget⟩
    exact ⟨names, .through ht hf hget⟩

namespace Projection

open Layout

variable {config : Config}

/-! ## How fields are written -/

/-- A type as it is written where a field of it is emitted: behind its qualifier, and with an
asterisk exactly if it is an interface. -/
def writtenType (type : ProjectedType) : String :=
  type.qualifier ++ type.projectedName ++ if type.isReference then "*" else ""

/-- The lines of the interface definitions that give a field its type: its entry in plain
data, or the accessors that get and set it in a class. -/
def fieldLines (f : StructField) (typeName : String) : ProjectionKind → List String
  | .valueType => ["    " ++ typeName ++ " " ++ f.propertyName ++ ";"]
  | .runtimeClass =>
    ["    [propget] HRESULT " ++ f.propertyName ++ "([out, retval] " ++ typeName ++ "* value);",
      "    [propput] HRESULT " ++ f.propertyName ++ "([in] " ++ typeName ++ " value);"]

theorem writtenType_eq (type : ProjectedType) :
    writtenType type = type.qualifier ++ type.parameterName := by
  unfold writtenType ProjectedType.parameterName
  split <;> simp [String.append_assoc]

theorem writtenType_of_value {type : ProjectedType} (h : type.isReference = false) :
    writtenType type = type.qualifier ++ type.projectedName := by
  simp [writtenType, h]

/-- A line of a block is among the lines of all blocks. -/
theorem mem_linesAt_intercalate {blocks : List (List Stroke)} (h : ∀ block ∈ blocks, Level block)
    {block : List Stroke} (hblock : block ∈ blocks) {depth : Nat} {line : String}
    (hne : line ≠ "") (hline : line ∈ linesAt depth block) :
    line ∈ linesAt depth (List.intercalate [.blank] blocks) := by
  -- the reader that takes the given line and no other
  have hblank : Option.guard (· = line) "" = none := by
    simp [Option.guard, hne.symm]
  have hmem : line ∈ (linesAt depth (List.intercalate [.blank] blocks)).filterMap
      (Option.guard (· = line)) := by
    rw [filterMap_linesAt_intercalate hblank h]
    refine List.mem_flatMap.2 ⟨block, hblock, ?_⟩
    rw [List.filterMap_eq_filter]
    exact List.mem_filter.2 ⟨hline, by simp⟩
  rw [List.filterMap_eq_filter] at hmem
  exact (List.mem_filter.1 hmem).1

/-- Plain data has an entry for every field. -/
theorem fieldLines_subset_valueStrokes {fields : List TypedField} {f : TypedField}
    (hf : f ∈ fields) (hvalue : f.type.isReference = false) :
    fieldLines f.field (writtenType f.type) .valueType ⊆ linesAt 0 (valueStrokes s fields) := by
  have hentry : linesAt 1 [valueFieldLine f] =
      fieldLines f.field (writtenType f.type) .valueType := by
    rw [valueFieldLine, linesAt, linesAt, lineAt_of_ne (by simp), margin_one,
      writtenType_of_value hvalue, fieldLines]
    simp [← String.toList_inj]
  have hlevel : ∀ f ∈ fields, Level [valueFieldLine f] := fun _ _ => .line _
  intro line hline
  rw [linesAt_valueStrokes, List.map_eq_flatMap, linesAt_flatMap_of_level hlevel]
  refine List.mem_append_left _ (List.mem_append_right _ (List.mem_flatMap.2 ⟨f, hf, ?_⟩))
  rw [hentry]
  exact hline

/-- The interface of a class has accessors that get and set every field. -/
theorem fieldLines_subset_interfaceStrokes {guid : String} {fields : List TypedField}
    {f : TypedField} (hf : f ∈ fields) :
    fieldLines f.field (writtenType f.type) .runtimeClass ⊆
      linesAt 0 (interfaceStrokes s guid fields) := by
  have hproperty : linesAt 1 (propertyLines f) =
      fieldLines f.field (writtenType f.type) .runtimeClass := by
    rw [linesAt_propertyLines, writtenType_eq]
    rfl
  intro line hline
  have hne : line ≠ "" := by
    rw [fieldLines, List.mem_cons, List.mem_singleton] at hline
    rcases hline with rfl | rfl <;> simp
  have hbody : line ∈ interfaceBody fields :=
    List.mem_cons_of_mem _ (mem_linesAt_intercalate
      (List.forall_mem_map.2 fun f _ => level_propertyLines f) (List.mem_map_of_mem hf) hne
      (hproperty ▸ hline))
  rw [linesAt_interfaceStrokes]
  exact List.mem_append_right _ (List.mem_cons_of_mem _ (List.mem_append_left _ hbody))

/-- What a struct adds gives every field its type, written by value unless it is an
interface. -/
theorem exists_lines_of_emittable (config : Config) (h : Emittable r s) :
    ∃ kind lines, selectKind r s = .ok kind ∧
      (ownOutput r config s).idl.text = unlines lines ∧
      ∀ f ∈ s.fields, ∃ type, r.get? f.typeName = some type ∧
        fieldLines f (writtenType type) kind ⊆ lines := by
  obtain ⟨block, hblock⟩ := (exists_structBlock_iff config).2 h
  obtain ⟨fields, hfields, hkind⟩ := structBlock_eq_ok_iff.1 hblock
  obtain ⟨hmap, hget⟩ := typedFields_eq_ok_iff.1 hfields
  have htext : (ownOutput r config s).idl.text = unlines (linesAt 0 block.idl) := by
    rw [ownOutput_of_structBlock_eq hblock, write_empty]
  rw [← hmap]
  refine ⟨_, linesAt 0 block.idl, selectKind_of_known h.known, htext, ?_⟩
  rw [List.forall_mem_map]
  intro f hf
  refine ⟨f.type, hget f hf, ?_⟩
  obtain ⟨hholds, guid, -, rfl⟩ | ⟨hnone, rfl⟩ := hkind
  · rw [if_pos hholds]
    exact fieldLines_subset_interfaceStrokes hf
  · rw [if_neg hnone]
    refine fieldLines_subset_valueStrokes hf (Bool.eq_false_iff.2 fun href => hnone ?_)
    exact ⟨f.field, hmap ▸ List.mem_map_of_mem hf,
      (Registry.isInterfaceField_iff_isReference (hget f hf)).2 href⟩

/-! ## Plain data -/

/-- A struct that is emitted holds no interface itself, but a struct that is emitted and does
hold one. -/
structure HoldsClass (r : Registry) (s : StructType) (f : StructField) (t : StructType) :
    Prop where
  /-- The struct is emitted. -/
  outer : s ∈ r.worklist
  /-- None of its fields is an interface. -/
  plain : ¬ r.HoldsInterface s
  /-- It has a field. -/
  field : f ∈ s.fields
  /-- The type of that field is a struct. -/
  type : r.get? f.typeName = some (.struct t)
  /-- That struct is emitted as well. -/
  inner : t ∈ r.worklist
  /-- It has an interface among its fields. -/
  holds : r.HoldsInterface t

namespace HoldsClass

variable {f : StructField} {output : Output}

theorem selectKind_outer (h : HoldsClass r s f t) (houtput : generate r config = .ok output) :
    selectKind r s = .ok .valueType :=
  selectKind_eq_valueType_iff.2
    ⟨((generate_eq_ok_iff.1 houtput).1 s h.outer).known, h.plain⟩

theorem selectKind_inner (h : HoldsClass r s f t) (houtput : generate r config = .ok output) :
    selectKind r t = .ok .runtimeClass := by
  rw [selectKind_of_known ((generate_eq_ok_iff.1 houtput).1 t h.inner).known, if_pos h.holds]

theorem exists_reaches (h : HoldsClass r s f t) : ∃ names, r.Reaches s (.interface names) :=
  (Registry.exists_reaches_interface_iff h.plain).2 ⟨t, .field h.field h.type, h.holds⟩

end HoldsClass

/-- The frame of the figures holds the shape, which holds a brush. -/
theorem exists_holdsClass_frame : ∃ r output frame shape f,
    load figureSchema (figureOverrides false) default = .ok r ∧
      generate r default = .ok output ∧ HoldsClass r frame f shape ∧
      f.propertyName = "Shape" ∧ writtenType (.struct shape) = "CanvasShape" := by
  obtain ⟨r, output, h, houtput⟩ := exists_generate_figures false
  have hdeclared : ∀ decl ∈ figureSchema.namespaces[0].structs,
      .struct (some figureSchema.namespaces[0]) decl ∈ figureSchema.declarations := by
    decide
  have hshape := hdeclared figureSchema.namespaces[0].structs[0] (by decide)
  have hanchor := hdeclared figureSchema.namespaces[0].structs[1] (by decide)
  have hframe := hdeclared figureSchema.namespaces[0].structs[2] (by decide)
  have hbrush : .interface figureSchema.namespaces[0] "IBrush" ∈ figureSchema.declarations := by
    decide
  have hfields : figureSchema.allFields figureSchema.namespaces[0].structs[2] =
      [.ofDecl ⟨"shape", "Geo::SHAPE"⟩, .ofDecl ⟨"anchor", "Geo::ANCHOR"⟩] := by
    rw [Schema.allFields, figureSchema.inheritedFields_of_root rfl]
    rfl
  refine ⟨r, output, _, _, .ofDecl ⟨"shape", "Geo::SHAPE"⟩, h, houtput,
    { outer := (mem_worklist_of_load_iff h hframe).2 ⟨⟨_, rfl⟩, by decide, by decide⟩
      plain := ?_
      field := hfields.symm.subst List.mem_cons_self
      type := get?_struct_of_load h hshape
      inner := (mem_worklist_of_load_iff h hshape).2 ⟨⟨_, rfl⟩, by decide, by decide⟩
      holds := ?_ }, rfl, by decide⟩
  · rintro ⟨f, hf, names, hget⟩
    rw [Schema.fields_finishedStruct, hfields, List.mem_cons, List.mem_singleton] at hf
    rcases hf with rfl | rfl
    · cases hget.symm.trans (get?_struct_of_load h hshape)
    · cases hget.symm.trans (get?_struct_of_load h hanchor)
  · exact ⟨.ofDecl ⟨"brush", "Geo::IBrush"⟩, by decide, _,
      (get?_of_load h).2 ⟨_, hbrush, rfl, rfl⟩⟩

/-- Plain data that reaches an interface, and holds by value a struct that is emitted as a
class in the same run. -/
theorem value_holds_class_figures :
    ∃ r output frame shape f lines,
      load figureSchema (figureOverrides false) default = .ok r ∧
      (∃ b : Registry.Builder, b.build = .ok r) ∧ generate r default = .ok output ∧
      frame ∈ r.worklist ∧ selectKind r frame = .ok .valueType ∧
      (∃ names, r.Reaches frame (.interface names)) ∧
      shape ∈ r.worklist ∧ selectKind r shape = .ok .runtimeClass ∧
      f ∈ frame.fields ∧ r.get? f.typeName = some (.struct shape) ∧
      (ownOutput r default frame).idl.text = unlines lines ∧ "    CanvasShape Shape;" ∈ lines := by
  obtain ⟨r, output, frame, shape, f, h, houtput, hclass, hname, hwritten⟩ :=
    exists_holdsClass_frame
  have hemittable := (generate_eq_ok_iff.1 houtput).1 frame hclass.outer
  obtain ⟨kind, lines, hkind, htext, hlines⟩ := exists_lines_of_emittable default hemittable
  have hvalue := hclass.selectKind_outer houtput
  obtain ⟨type, htype, hall⟩ := hlines f hclass.field
  obtain rfl : ProjectedType.struct shape = type := Option.some.inj (hclass.type.symm.trans htype)
  obtain rfl : ProjectionKind.valueType = kind := Except.ok.inj (hvalue.symm.trans hkind)
  rw [hwritten, fieldLines, hname] at hall
  obtain ⟨b, -, hb⟩ := load_eq_ok_iff.1 h
  exact ⟨r, output, frame, shape, f, lines, h, ⟨b, hb⟩, houtput, hclass.outer, hvalue,
    hclass.exists_reaches, hclass.inner, hclass.selectKind_inner houtput, hclass.field,
    hclass.type, htext, hall (List.mem_singleton_self _)⟩

/-- A struct that is emitted as plain data has no interface among the types of its fields.
Whenever an interface is reached from it, a struct that is reached holds the interface
itself, and that one is emitted as a class if it is emitted at all; so it is plain data all
the way down exactly if no struct that is reached holds an interface.  Every block gives
every field its type, with an asterisk exactly if the type is an interface: a struct is
written by value, whatever it is emitted as. -/
theorem generate_plainData {r : Registry} {config : Config} {output : Output}
    (h : generate r config = .ok output) :
    (∀ s ∈ r.worklist, selectKind r s = .ok .valueType →
      (∀ f ∈ s.fields, ∃ type, r.get? f.typeName = some type ∧ type.isReference = false) ∧
      (∀ names, r.Reaches s (.interface names) → ∃ t, r.Reaches s (.struct t) ∧
        (∃ f ∈ t.fields, r.get? f.typeName = some (.interface names)) ∧
        (t ∈ r.worklist → selectKind r t = .ok .runtimeClass)) ∧
      ((∀ names, ¬ r.Reaches s (.interface names)) ↔
        ∀ t, r.Reaches s (.struct t) → ¬ r.HoldsInterface t)) ∧
    output = .concat (r.worklist.map (ownOutput r config)) ∧
    ∀ s ∈ r.worklist, ∃ kind lines, selectKind r s = .ok kind ∧
      (ownOutput r config s).idl.text = unlines lines ∧
      ∀ f ∈ s.fields, ∃ type, r.get? f.typeName = some type ∧
        fieldLines f (writtenType type) kind ⊆ lines := by
  obtain ⟨hall, houtput⟩ := generate_eq_ok_iff.1 h
  refine ⟨fun s hs hvalue => ?_, houtput, fun s hs => exists_lines_of_emittable config (hall s hs)⟩
  obtain ⟨hknown, hnone⟩ := selectKind_eq_valueType_iff.1 hvalue
  refine ⟨fun f hf => ?_, fun names hreach => ?_, ?_⟩
  · obtain ⟨type, hget⟩ := hknown f hf
    refine ⟨type, hget, Bool.eq_false_iff.2 fun href => hnone ⟨f, hf, ?_⟩⟩
    exact (Registry.isInterfaceField_iff_isReference hget).2 href
  · obtain ⟨t, rfl | ht, f, hf, hget⟩ := hreach.exists_holder
    · exact absurd ⟨f, hf, names, hget⟩ hnone
    · refine ⟨t, ht, ⟨f, hf, hget⟩, fun hemitted => ?_⟩
      rw [selectKind_of_known (hall t hemitted).known, if_pos ⟨f, hf, names, hget⟩]
  · have hiff := not_congr (Registry.exists_reaches_interface_iff hnone)
    simpa only [not_exists, not_and] using hiff

/-- The frame of the figures reaches a brush through the shape, which is a class. -/
theorem generate_plainData_figures :
    ∃ r output frame shape names,
      load figureSchema (figureOverrides false) default = .ok r ∧
      generate r default = .ok output ∧ frame ∈ r.worklist ∧
      selectKind r frame = .ok .valueType ∧ r.Reaches frame (.struct shape) ∧
      r.Reaches frame (.interface names) ∧
      (∀ f ∈ frame.fields, r.get? f.typeName ≠ some (.interface names)) ∧
      ∃ t f, r.Reaches frame (.struct t) ∧ f ∈ t.fields ∧
        r.get? f.typeName = some (.interface names) := by
  obtain ⟨r, output, frame, shape, f, h, houtput, hclass, -, -⟩ := exists_holdsClass_frame
  obtain ⟨names, hreach⟩ := hclass.exists_reaches
  have hvalue := hclass.selectKind_outer houtput
  obtain ⟨hplain, -⟩ := generate_plainData houtput
  obtain ⟨hvalues, hholders, -⟩ := hplain frame hclass.outer hvalue
  obtain ⟨t, ht, ⟨g, hg, hget⟩, -⟩ := hholders names hreach
  refine ⟨r, output, frame, shape, names, h, houtput, hclass.outer, hvalue,
    .field hclass.field hclass.type, hreach, fun f' hf' heq => ?_, t, g, ht, hg, hget⟩
  obtain ⟨type, htype, hfalse⟩ := hvalues f' hf'
  obtain rfl : type = .interface names := Option.some.inj (htype.symm.trans heq)
  cases hfalse

end Projection

end TypeProjection
