/-
  Proofs/Projection/Definitions.lean --- the names that are defined.

  Plain data defines one name; a class defines two, that of its interface and its own.
  Nothing compares these names when a text is generated, so whether one is defined twice
  depends on the declarations: on the names that structs are emitted under, and, if the
  lead could begin the name of an interface, on which of them are classes
  (`distinct_definitions_iff`).
-/
import TypeProjection.Proofs.Projection.Accessors
import TypeProjection.Proofs.Projection.Stages
import TypeProjection.Proofs.Registry.Emitted

set_option autoImplicit false

namespace TypeProjection.Projection

open Layout
open Markup (Element)

variable {r : Registry} {config : Config} {s : StructType}

/-! ## Reading definitions -/

/-- The name that a line of the interface definitions defines. -/
def definition? (line : String) : Option String :=
  (inside? "typedef struct " "" line).or
    ((interfaceHead? line).or
      ((inside? "runtimeclass " "" line).filter fun name => name.toList.getLast? ≠ some ';'))

/-- The names that are defined in a text of interface definitions, in order. -/
def definitions (text : String) : List String :=
  (linesOf text).filterMap definition?

/-- The names that a struct defines. -/
def definedNames (r : Registry) (s : StructType) : List String :=
  if r.HoldsInterface s then [s.interfaceName, s.projectedName] else [s.projectedName]

/-- A line that begins otherwise than definitions do defines nothing. -/
theorem definition?_eq_none_of_head {line : String}
    (h : line.toList.head? ∉ [some 't', some 'i', some 'r']) : definition? line = none := by
  simp only [List.mem_cons, List.not_mem_nil, or_false, not_or] at h
  obtain ⟨ht, hi, hr⟩ := h
  rw [definition?, inside?_eq_none_of_lead _ (not_isPrefix_of_head (by decide) ht),
    interfaceHead?_eq_none hi, inside?_eq_none_of_lead _ (not_isPrefix_of_head (by decide) hr)]
  rfl

theorem definition?_eq_none_of_indented {line : String} (h : Indented 1 line) :
    definition? line = none := by
  refine definition?_eq_none_of_head ?_
  have ht := h.head?_ne (c := 't') (by decide)
  have hi := h.head?_ne (c := 'i') (by decide)
  have hr := h.head?_ne (c := 'r') (by decide)
  simp [ht, hi, hr]

theorem definition?_brackets :
    definition? "" = none ∧ definition? "\x7b" = none ∧ definition? "\x7d" = none := by
  decide

theorem definition?_typedef (name : String) :
    definition? ("typedef struct " ++ name) = some name := by
  rw [definition?, inside?_eq_some_iff.2 (String.append_empty).symm]
  rfl

theorem typedef?_eq_none {line : String} (h : line.toList.head? ≠ some 't') :
    inside? "typedef struct " "" line = none :=
  inside?_eq_none_of_lead _ (not_isPrefix_of_head (by decide) h)

theorem definition?_interface (name : String) :
    definition? ("interface " ++ name ++ " : IInspectable") = some name := by
  rw [definition?, typedef?_eq_none (by simp), interfaceHead?, inside?_eq_some_iff.2 rfl]
  rfl

theorem definition?_runtimeclass {name : String} (h : name.toList.getLast? ≠ some ';') :
    definition? ("runtimeclass " ++ name) = some name := by
  rw [definition?, typedef?_eq_none (by simp), interfaceHead?_eq_none (by simp),
    inside?_eq_some_iff.2 (String.append_empty).symm, Option.filter_some, if_pos (by simpa using h)]
  rfl

/-- An interface that is announced is not defined yet. -/
theorem definition?_announcedInterface (name : String) :
    definition? ("interface " ++ name ++ ";") = none := by
  have htail : interfaceHead? ("interface " ++ name ++ ";") = none :=
    inside?_eq_none_of_tail _ (by simp [← List.reverse_prefix])
  have hclass : inside? "runtimeclass " "" ("interface " ++ name ++ ";") = none :=
    inside?_eq_none_of_lead _ (by simp)
  rw [definition?, typedef?_eq_none (by simp), htail, hclass]
  rfl

/-- A class that is announced is not defined yet. -/
theorem definition?_announcedClass (name : String) :
    definition? ("runtimeclass " ++ name ++ ";") = none := by
  have hclass : inside? "runtimeclass " "" ("runtimeclass " ++ name ++ ";") =
      some (name ++ ";") :=
    inside?_eq_some_iff.2 (by rw [String.append_empty, String.append_assoc])
  rw [definition?, typedef?_eq_none (by simp), interfaceHead?_eq_none (by simp), hclass,
    Option.filter_some, if_neg (by simp)]
  rfl

/-! ## What blocks define -/

theorem filterMap_definition?_of_level {strokes : List Stroke} (h : Level strokes) :
    (linesAt 1 strokes).filterMap definition? = [] := by
  rw [List.filterMap_eq_nil_iff]
  intro line hline
  exact definition?_eq_none_of_indented (indented_of_level h 1 line hline)

/-- A class defines its interface and itself. -/
theorem filterMap_definition?_interfaceStrokes (hname : IsIdentifier s.projectedName)
    (guid : String) (fields : List TypedField) :
    (linesAt 0 (interfaceStrokes s guid fields)).filterMap definition? =
      [s.interfaceName, s.projectedName] := by
  have hidentity : definition? (interfaceAttributes s guid) = none :=
    definition?_eq_none_of_head (by simp [interfaceAttributes])
  have hbody : (interfaceBody fields).filterMap definition? = [] := by
    rw [interfaceBody, List.filterMap_cons_none (definition?_eq_none_of_head (by decide)),
      filterMap_definition?_of_level (level_properties fields)]
  have hlast : s.projectedName.toList.getLast? ≠ some ';' := fun hlast =>
    hname.not_mem (by decide) (List.mem_of_getLast? hlast)
  have hdefault : definition? ("    [default] interface " ++ s.interfaceName ++ ";") = none :=
    definition?_eq_none_of_head (by simp)
  have hversion : definition? ("[" ++ versionMark ++ ", activatable(VERSION)]") = none := by decide
  rw [linesAt_interfaceStrokes]
  simp only [List.filterMap_append, List.filterMap_cons, List.filterMap_nil, hbody, hidentity,
    hdefault, hversion, definition?_announcedInterface, definition?_announcedClass,
    definition?_interface, definition?_runtimeclass hlast, definition?_brackets]
  simp

/-- Plain data defines itself. -/
theorem filterMap_definition?_valueStrokes (s : StructType) (fields : List TypedField) :
    (linesAt 0 (valueStrokes s fields)).filterMap definition? = [s.projectedName] := by
  have hfields : Level (fields.map valueFieldLine) := .map fun _ _ => .line _
  have hclosing : definition? ("\x7d " ++ s.projectedName ++ ";") = none :=
    definition?_eq_none_of_head (by simp)
  have hversion : definition? ("[" ++ versionMark ++ "]") = none := by decide
  rw [linesAt_valueStrokes]
  simp only [List.filterMap_append, List.filterMap_cons, List.filterMap_nil,
    filterMap_definition?_of_level hfields, hclosing, hversion, definition?_typedef,
    definition?_brackets]
  simp

theorem filterMap_definition?_of_structBlock {block : Block}
    (h : structBlock r config s = .ok block) (hs : IsIdentifier s.projectedName) :
    (linesAt 0 block.idl).filterMap definition? = definedNames r s := by
  obtain ⟨fields, -, ⟨hholds, guid, -, rfl⟩ | ⟨hnone, rfl⟩⟩ := structBlock_eq_ok_iff.1 h
  · rw [filterMap_definition?_interfaceStrokes hs, definedNames, if_pos hholds]
  · rw [filterMap_definition?_valueStrokes, definedNames, if_neg hnone]

/-- The lines of the interface definitions of a struct end nowhere else. -/
theorem oneLines_idl_of_structBlock {block : Block} (h : structBlock r config s = .ok block)
    (hs : PlainStruct r s) : OneLines block.idl := by
  obtain ⟨kind, -, hblock⟩ := structBlock_eq_ok_iff_kind.1 h
  exact oneLines_idl_of_blockOfKind hblock hs.oneLine

/-- If the names that are written are identifiers, the names that a generated text defines
are those of the structs on the worklist, in order. -/
theorem definitions_of_generate {output : Output} (h : generate r config = .ok output)
    (hnames : ∀ s ∈ r.worklist, PlainStruct r s) :
    definitions output.idl.text = r.worklist.flatMap (definedNames r) := by
  obtain ⟨blocks, hall, -, rfl⟩ := exists_blocks_of_generate h
  have hlines : ∀ line ∈ blocks.flatMap (linesAt 0 ·.idl), OneLine line := by
    rw [List.forall_mem_flatMap]
    intro block hblock
    obtain ⟨s, hs, hsb⟩ := exists_of_mem_of_forall₂ hall.flip hblock
    exact oneLine_of_mem_linesAt (oneLines_idl_of_structBlock hsb (hnames s hs)) 0
  rw [definitions, linesOf_unlines hlines, List.filterMap_append, List.filterMap_flatMap,
    List.filterMap_cons_none definition?_brackets.1, List.filterMap_nil, List.append_nil]
  clear hlines h
  generalize r.worklist = structs at hall hnames
  induction hall with
  | nil => rfl
  | cons hblock _ ih =>
    rw [List.forall_mem_cons] at hnames
    rw [List.flatMap_cons, List.flatMap_cons, ih hnames.2,
      filterMap_definition?_of_structBlock hblock hnames.1.projectedName]

/-! ## Names that are defined once -/

/-- The names that structs define are, in another order, their own names and those of the
interfaces of the classes. -/
theorem flatMap_definedNames_perm (structs : List StructType) :
    (structs.flatMap (definedNames r)).Perm (structs.map StructType.projectedName ++
      (structs.filter (r.HoldsInterface ·)).map StructType.interfaceName) := by
  induction structs with
  | nil => exact .refl _
  | cons s structs ih =>
    rw [List.flatMap_cons, List.map_cons, definedNames]
    by_cases hs : r.HoldsInterface s
    · rw [if_pos hs, List.filter_cons_of_pos (by simpa using hs), List.map_cons]
      exact ((ih.cons _).cons _).trans ((List.Perm.swap _ _ _).trans
        (List.perm_middle.symm.cons _))
    · rw [if_neg hs, List.filter_cons_of_neg (by simpa using hs)]
      exact ih.cons _

/-- No name is defined twice exactly if no two structs have the same name and none has that
of the interface of a class. -/
theorem nodup_definedNames_iff {structs : List StructType}
    (hinterface : ∀ s ∈ structs, s.interfaceName = "I" ++ s.projectedName) :
    (structs.flatMap (definedNames r)).Nodup ↔
      (structs.map StructType.projectedName).Nodup ∧
        ∀ s ∈ structs, r.HoldsInterface s → ∀ t ∈ structs, t.projectedName ≠ "I" ++ s.projectedName := by
  rw [(flatMap_definedNames_perm structs).nodup_iff, List.nodup_append]
  constructor
  · rintro ⟨hnames, -, hne⟩
    refine ⟨hnames, fun s hs hholds t ht heq => ?_⟩
    have hclass : s ∈ structs.filter (r.HoldsInterface ·) :=
      List.mem_filter.2 ⟨hs, by simpa using hholds⟩
    exact hne _ (List.mem_map_of_mem ht) _ (List.mem_map_of_mem hclass)
      (heq.trans (hinterface s hs).symm)
  · rintro ⟨hnames, hne⟩
    refine ⟨hnames, ?_, ?_⟩
    · -- distinct names stay distinct behind the mark of an interface
      have hmarked : (structs.filter (r.HoldsInterface ·)).map StructType.interfaceName =
          ((structs.filter (r.HoldsInterface ·)).map StructType.projectedName).map ("I" ++ ·) := by
        rw [List.map_map]
        exact List.map_congr_left fun s hs => hinterface s (List.mem_filter.1 hs).1
      rw [hmarked]
      have hclasses := hnames.sublist ((List.filter_sublist
        (p := fun s => decide (r.HoldsInterface s))).map StructType.projectedName)
      refine List.Pairwise.map _ (fun a b hne heq => hne ?_) hclasses
      simpa using heq
    · intro name hname other hother heq
      obtain ⟨t, ht, rfl⟩ := List.mem_map.1 hname
      obtain ⟨s, hs, rfl⟩ := List.mem_map.1 hother
      obtain ⟨hs, hholds⟩ := List.mem_filter.1 hs
      exact hne s hs (by simpa using hholds) t ht (heq.trans (hinterface s hs))

/-- A text with a lead is another one with the lead and a character in front only if the
lead is that character again and again. -/
theorem append_eq_cons_append_iff {c : Char} {lead cs ds : List Char} :
    lead ++ cs = c :: (lead ++ ds) ↔ (∀ d ∈ lead, d = c) ∧ cs = c :: ds := by
  induction lead with
  | nil => simp
  | cons d lead ih =>
    rw [List.cons_append, List.cons.injEq, List.forall_mem_cons]
    constructor
    · rintro ⟨rfl, h⟩
      obtain ⟨hlead, hrest⟩ := ih.1 h
      exact ⟨⟨rfl, hlead⟩, hrest⟩
    · rintro ⟨⟨rfl, hlead⟩, hrest⟩
      exact ⟨rfl, ih.2 ⟨hlead, hrest⟩⟩

theorem lead_append_eq_iff {lead name other : String} :
    lead ++ name = "I" ++ (lead ++ other) ↔
      (∀ c ∈ lead.toList, c = 'I') ∧ name = "I" ++ other := by
  simp only [← String.toList_inj, String.toList_append]
  exact append_eq_cons_append_iff

/-- The same in terms of the names without a lead that all structs have. -/
theorem nodup_definedNames_iff_of_lead {structs : List StructType} {lead : String}
    {names : List String}
    (hinterface : ∀ s ∈ structs, s.interfaceName = "I" ++ s.projectedName)
    (hnames : structs.map StructType.projectedName = names.map (lead ++ ·)) :
    (structs.flatMap (definedNames r)).Nodup ↔
      names.Nodup ∧ ((∀ c ∈ lead.toList, c = 'I') → ∀ s ∈ structs, r.HoldsInterface s →
        ∀ name, s.projectedName = lead ++ name → "I" ++ name ∉ names) := by
  have hnamed {name : String} (hname : name ∈ names) :
      ∃ s ∈ structs, s.projectedName = lead ++ name :=
    List.mem_map.1 (hnames ▸ List.mem_map_of_mem hname)
  rw [nodup_definedNames_iff hinterface, hnames, List.Nodup, List.pairwise_map]
  refine and_congr (by simp) ⟨fun h hlead s hs hholds name hname hmem => ?_, ?_⟩
  · obtain ⟨t, ht, htname⟩ := hnamed hmem
    exact h s hs hholds t ht (by rw [htname, hname, lead_append_eq_iff.2 ⟨hlead, rfl⟩])
  · intro h s hs hholds t ht heq
    obtain ⟨name, -, hname⟩ := List.mem_map.1 (hnames ▸ List.mem_map_of_mem hs)
    obtain ⟨other, hother, htname⟩ := List.mem_map.1 (hnames ▸ List.mem_map_of_mem ht)
    rw [← htname, ← hname, lead_append_eq_iff] at heq
    exact h heq.1 s hs hholds name hname.symm (heq.2 ▸ hother)

/-- Generation from documents defines a name for every struct on the worklist, and one
more for every class; all of them are read off the text if the names that are written are
identifiers.  Every struct is named by its rename or by what is derived from its declared
name, behind the lead.  So no name is defined twice exactly if these names are distinct
and, should the lead be made of the mark of interfaces alone, none of them is the marked
name of a class. -/
theorem distinct_definitions_iff {schemaText : String} {overridesText : Option String}
    {config : Config} {output : Output}
    (h : generateFromTexts schemaText overridesText config = .ok output) :
    ∃ schema overrides r, Stages schemaText overridesText config output schema overrides r ∧
      ((∀ s ∈ r.worklist, PlainStruct r s) →
        definitions output.idl.text = r.worklist.flatMap (definedNames r)) ∧
      r.worklist.map StructType.projectedName =
        (schema.emittedNames overrides).map (config.style.lead ++ ·) ∧
      ((r.worklist.flatMap (definedNames r)).Nodup ↔
        (schema.emittedNames overrides).Nodup ∧
        ((∀ c ∈ config.style.lead.toList, c = 'I') → ∀ s ∈ r.worklist, r.HoldsInterface s →
          ∀ name, s.projectedName = config.style.lead ++ name →
            "I" ++ name ∉ schema.emittedNames overrides)) := by
  obtain ⟨schema, overrides, r, hstages⟩ := generateFromTexts_eq_ok_iff.1 h
  have hnames := map_projectedName_of_load hstages.loaded
  refine ⟨schema, overrides, r, hstages, definitions_of_generate hstages.generated, hnames, ?_⟩
  refine nodup_definedNames_iff_of_lead (fun s hs => ?_) hnames
  obtain ⟨_, _, _, -, hfollows, -⟩ :=
    exists_structFollows_of_load hstages.loaded (List.mem_filter.1 hs).1
  exact hfollows.interfaceName

/-- The shape and its interface have names of their own. -/
theorem distinct_definitions_iff_shape :
    ∃ output schema overrides r,
      Stages shapeSchema.document (some (spaceOverrides ["SHAPE"]).document) default output schema
        overrides r ∧
      schema.emittedNames overrides = ["Shape"] ∧
      definitions output.idl.text = ["ICanvasShape", "CanvasShape"] ∧
      (r.worklist.flatMap (definedNames r)).Nodup := by
  obtain ⟨output, h⟩ := exists_generateFromTexts_shape
  obtain ⟨schema, overrides, r, hstages, hdefinitions, -, hnodup⟩ := distinct_definitions_iff h
  have hshape : ∀ x ∈ loadedFrom shapeSchema (spaceOverrides ["SHAPE"]) default,
      x.1.emittedNames x.2.1 = ["Shape"] ∧
      x.2.2.worklist.flatMap (definedNames x.2.2) = ["ICanvasShape", "CanvasShape"] ∧
      ∀ s ∈ x.2.2.worklist, PlainStruct x.2.2 s := by
    decide +kernel
  obtain ⟨hemitted, hdefined, hplain⟩ :=
    hshape _ (hstages.loadedFrom_eq written_shapeSchema written_shapeOverrides)
  refine ⟨output, schema, overrides, r, hstages, hemitted, ?_, hnodup.2 ⟨?_, fun hlead => ?_⟩⟩
  · rw [hdefinitions hplain, hdefined]
  · rw [hemitted]
    decide
  · exact absurd (hlead 'C' (by decide)) (by decide)

/-- Two structs whose names differ in case. -/
def twoRectsSchema : Element :=
  spaceSchema [structElement "RECT" [fieldElement "x" "FLOAT"],
    structElement "Rect" [fieldElement "y" "FLOAT"]]

/-- Names that differ in case are emitted as one name, which is defined twice. -/
theorem rect_defined_twice :
    (generateFromTexts twoRectsSchema.document (some (spaceOverrides ["RECT", "Rect"]).document)
      default).map (fun output => definitions output.idl.text) =
        .ok ["CanvasRect", "CanvasRect"] := by
  have hschema : WrittenSchema twoRectsSchema twoRectsSchema.document :=
    written_spaceSchema (by decide)
  rw [generateFromTexts_of_written hschema (written_spaceOverrides (by decide))]
  apply eq_ok_of_toOption
  decide +kernel

end TypeProjection.Projection
