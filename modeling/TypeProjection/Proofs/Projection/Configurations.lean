/-
  Proofs/Projection/Configurations.lean --- what the configuration decides.

  The lead goes into names and the subnamespace into the line that names a class at run
  time.  So two generations from the same documents under two configurations fail alike, or
  emit the same structs in the same way on equally many lines; with the same lead only the
  lines that name classes differ (`configurations_agree`).
-/
import TypeProjection.Proofs.Projection.Resemblance
import TypeProjection.Proofs.Projection.Sections
import TypeProjection.Proofs.Projection.Stages

set_option autoImplicit false

namespace TypeProjection.Projection

open Layout

/-! ## The lines that name classes -/

/-- What names a class at run time, as it stands in its wrapper. -/
def identityText (config : Config) (projectedName : String) : String :=
  lineAt 1 ("InspectableClass(L\"" ++ config.runtimeClassName projectedName ++ "\", BaseTrust);")

/-- The line that names a class at run time; what it holds of the projected name ends where
that ends a line. -/
def identityLine (config : Config) (projectedName : String) : String :=
  (linesOf (identityText config projectedName)).headD ""

/-- Lines that are the same but for those that name the given classes at run time, one for
each class, in order. -/
inductive SameButIdentities (config config' : Config) :
    List String → List String → List String → Prop where
  /-- there are no lines -/
  | nil : SameButIdentities config config' [] [] []
  /-- a line is the same -/
  | same (line : String) {names lines lines' : List String}
    (h : SameButIdentities config config' names lines lines') :
    SameButIdentities config config' names (line :: lines) (line :: lines')
  /-- a class is named -/
  | identity (name : String) {names lines lines' : List String}
    (h : SameButIdentities config config' names lines lines') :
    SameButIdentities config config' (name :: names) (identityLine config name :: lines)
      (identityLine config' name :: lines')

namespace SameButIdentities

variable {config config' : Config} {names names₂ lines lines' lines₂ lines₂' : List String}

theorem append (h : SameButIdentities config config' names lines lines')
    (h₂ : SameButIdentities config config' names₂ lines₂ lines₂') :
    SameButIdentities config config' (names ++ names₂) (lines ++ lines₂) (lines' ++ lines₂') := by
  induction h with
  | nil => exact h₂
  | same line _ ih => exact .same line ih
  | identity name _ ih => exact .identity name ih

theorem refl (lines : List String) : SameButIdentities config config' [] lines lines := by
  induction lines with
  | nil => exact .nil
  | cons line lines ih => exact .same line ih

end SameButIdentities

/-- The subnamespace is on the first line of what names a class at run time; the others, if
there are any, are those of the projected name. -/
theorem linesOf_identityText {config : Config} (h : OneLine config.subnamespace) (name : String) :
    linesOf (identityText config name) =
      identityLine config name :: (linesOf (name ++ "\", BaseTrust);")).tail := by
  have htext : identityText config name =
      "    InspectableClass(L\"Microsoft." ++ config.subnamespace ++ "." ++
        (name ++ "\", BaseTrust);") := by
    rw [identityText, lineAt_of_ne (by simp), margin_one, Config.runtimeClassName]
    simp [← String.toList_inj]
  have hlead : OneLine ("    InspectableClass(L\"Microsoft." ++ config.subnamespace ++ ".") := by
    rw [oneLine_append, oneLine_append]
    exact ⟨⟨by decide, h⟩, by decide⟩
  obtain ⟨first, others, hrest, hfollow⟩ :=
    linesOf_append_of_oneLine hlead (name ++ "\", BaseTrust);")
  rw [identityLine, htext, hfollow, hrest]
  rfl

section Identities

variable {config config' : Config} (h : OneLine config.subnamespace)
  (h' : OneLine config'.subnamespace)

include h h'

/-- What names a class at run time is the same behind its first line. -/
theorem sameButIdentities_identityText (name : String) :
    SameButIdentities config config' [name] (linesOf (identityText config name))
      (linesOf (identityText config' name)) := by
  rw [linesOf_identityText h, linesOf_identityText h']
  exact .identity name (.refl _)

/-- The wrapper of a class under two configurations has one line that names the class. -/
theorem sameButIdentities_wrapperStrokes (s : StructType) (fields : List TypedField) :
    SameButIdentities config config' [s.projectedName]
      ((linesAt 0 (wrapperStrokes config s fields)).flatMap linesOf)
      ((linesAt 0 (wrapperStrokes config' s fields)).flatMap linesOf) := by
  have hsame : ∀ lines, SameButIdentities config config' [] lines lines := .refl
  have hidentity := sameButIdentities_identityText h h' s.projectedName
  rw [identityText, identityText] at hidentity
  simp only [linesAt_wrapperStrokes, wrapperBody, wrapperShown, identityStrokes, linesAt,
    List.flatMap_cons, List.flatMap_append, List.cons_append, List.append_assoc]
  exact (hsame _).append ((hsame _).append (hidentity.append (hsame _)))

variable {r : Registry}

/-- A struct has the same interface definitions under two configurations, and its native
lines are the same but for the one that names the class, if it is one. -/
theorem sameButIdentities_of_structBlock {s : StructType} {block block' : Block}
    (hblock : structBlock r config s = .ok block) (hblock' : structBlock r config' s = .ok block') :
    block'.idl = block.idl ∧
      SameButIdentities config config' (([s].filter (r.HoldsInterface ·)).map (·.projectedName))
        ((linesAt 0 block.native).flatMap linesOf) ((linesAt 0 block'.native).flatMap linesOf) := by
  obtain ⟨fields, hfields, hkind⟩ := structBlock_eq_ok_iff.1 hblock
  obtain ⟨fields', hfields', hkind'⟩ := structBlock_eq_ok_iff.1 hblock'
  obtain rfl : fields = fields' := Except.ok.inj (hfields.symm.trans hfields')
  rcases hkind with ⟨hholds, guid, hguid, rfl⟩ | ⟨hnone, rfl⟩
  · rcases hkind' with ⟨-, guid', hguid', rfl⟩ | ⟨hnone, -⟩
    · obtain rfl : guid = guid' := Option.some.inj (hguid.symm.trans hguid')
      simp only [hholds, decide_true, List.filter_cons_of_pos, List.filter_nil, List.map_cons,
        List.map_nil, true_and]
      exact sameButIdentities_wrapperStrokes h h' s fields
    · exact absurd hholds hnone
  · rcases hkind' with ⟨hholds, -⟩ | ⟨-, rfl⟩
    · exact absurd hholds hnone
    · simp only [hnone, decide_false, Bool.false_eq_true, not_false_eq_true,
        List.filter_cons_of_neg, List.filter_nil, List.map_nil, true_and]
      exact .nil

/-- So it is for all structs together. -/
theorem sameButIdentities_of_forall₂ {structs : List StructType} {blocks blocks' : List Block}
    (hall : List.Forall₂ (fun s block => structBlock r config s = .ok block) structs blocks)
    (hall' : List.Forall₂ (fun s block => structBlock r config' s = .ok block) structs blocks') :
    blocks'.map Block.idl = blocks.map Block.idl ∧
      SameButIdentities config config'
        ((structs.filter (r.HoldsInterface ·)).map (·.projectedName))
        ((blocks.flatMap fun b => linesAt 0 b.native).flatMap linesOf)
        ((blocks'.flatMap fun b => linesAt 0 b.native).flatMap linesOf) := by
  induction hall generalizing blocks' with
  | nil =>
    cases hall'
    exact ⟨rfl, .nil⟩
  | @cons s block structs blocks hblock _ ih =>
    cases hall' with
    | cons hblock' hrest =>
      obtain ⟨hidl, hnative⟩ := sameButIdentities_of_structBlock h h' hblock hblock'
      obtain ⟨hidls, hnatives⟩ := ih hrest
      rw [List.map_cons, List.map_cons, hidl, hidls]
      refine ⟨rfl, ?_⟩
      rw [← List.singleton_append, List.filter_append, List.map_append, List.flatMap_cons,
        List.flatMap_cons, List.flatMap_append, List.flatMap_append]
      exact hnative.append hnatives

/-- From one registry the same interface definitions are generated under two configurations,
and native texts that are the same but for the lines that name classes. -/
theorem sameButIdentities_of_generate {output output' : Output}
    (hgen : generate r config = .ok output) (hgen' : generate r config' = .ok output') :
    output'.idl.text = output.idl.text ∧
      SameButIdentities config config'
        ((r.worklist.filter (r.HoldsInterface ·)).map (·.projectedName))
        (linesOf output.native.text) (linesOf output'.native.text) := by
  obtain ⟨blocks, hall, -, rfl⟩ := exists_blocks_of_generate hgen
  obtain ⟨blocks', hall', -, rfl⟩ := exists_blocks_of_generate hgen'
  obtain ⟨hidl, hnative⟩ := sameButIdentities_of_forall₂ h h' hall hall'
  constructor
  · show unlines (blocks'.flatMap _) = unlines (blocks.flatMap _)
    rw [← List.flatMap_map Block.idl (linesAt 0), ← List.flatMap_map Block.idl (linesAt 0), hidl]
  · rw [linesOf_unlines_eq, linesOf_unlines_eq, ← List.append_nil (List.map _ _)]
    exact hnative.append (.refl _)

end Identities

/-! ## Two configurations -/

/-- Two generations from the same documents under two configurations whose texts do not end
a line fail alike, or both succeed: then the same structs are emitted, in one order and in
the same way, on equally many lines.  With the same lead the interface definitions are the
same, and the native wrappers are the same but for one line for each class, the one that
names it at run time. -/
theorem configurations_agree (schemaText : String) (overridesText : Option String)
    {config config' : Config} (h : config.IsOneLine) (h' : config'.IsOneLine) :
    (∃ e, generateFromTexts schemaText overridesText config = .error e ∧
      generateFromTexts schemaText overridesText config' = .error e) ∨
    ∃ output output', generateFromTexts schemaText overridesText config = .ok output ∧
      generateFromTexts schemaText overridesText config' = .ok output' ∧
      ∃ schema overrides r r',
        Stages schemaText overridesText config output schema overrides r ∧
        Stages schemaText overridesText config' output' schema overrides r' ∧
        List.Forall₂ (fun s s' => s'.qualifiedName = s.qualifiedName ∧
          selectKind r' s' = selectKind r s) r.worklist r'.worklist ∧
        (linesOf output'.idl.text).length = (linesOf output.idl.text).length ∧
        (linesOf output'.native.text).length = (linesOf output.native.text).length ∧
        (config'.style.lead = config.style.lead →
          output'.idl.text = output.idl.text ∧
          SameButIdentities config config'
            ((r.worklist.filter (r.HoldsInterface ·)).map (·.projectedName))
            (linesOf output.native.text) (linesOf output'.native.text)) := by
  have hagree := agree_generateFromTexts h h' schemaText overridesText
  generalize hresult : generateFromTexts schemaText overridesText config = result,
    hresult' : generateFromTexts schemaText overridesText config' = result' at hagree
  cases hagree with
  | error e => exact .inl ⟨e, rfl, rfl⟩
  | @ok output output' hlines =>
    obtain ⟨schema, overrides, r, hstages⟩ := generateFromTexts_eq_ok_iff.1 hresult
    obtain ⟨schema', overrides', r', hstages'⟩ := generateFromTexts_eq_ok_iff.1 hresult'
    obtain rfl : schema = schema' :=
      Except.ok.inj (hstages.schemaRead.symm.trans hstages'.schemaRead)
    obtain rfl : overrides = overrides' :=
      Except.ok.inj (hstages.overridesRead.symm.trans hstages'.overridesRead)
    have hr := resembles_of_load h.lead h'.lead hstages.loaded hstages'.loaded
    have hstructs := hr.worklist.imp fun s s' hs =>
      And.intro hs.qualifiedName (selectKind_eq_of_resembles hr hs)
    refine .inr ⟨output, output', rfl, rfl, schema, overrides, r, r', hstages, hstages', hstructs,
      hlines.idl, hlines.native, ?_⟩
    intro hlead
    have hstyle : config'.style = config.style := NameStyle.mk.injEq .. ▸ hlead
    have hloaded' := hstages'.loaded
    rw [hstyle] at hloaded'
    obtain rfl : r = r' := Except.ok.inj (hstages.loaded.symm.trans hloaded')
    exact sameButIdentities_of_generate h.subnamespace h'.subnamespace hstages.generated
      hstages'.generated

/-- The class of the shape in another subnamespace. -/
theorem configurations_agree_shape :
    let config : Config := default
    let config' : Config := ⟨default, "UI.Shapes"⟩
    let texts := generateFromTexts shapeSchema.document (some (spaceOverrides ["SHAPE"]).document)
    config.IsOneLine ∧ config'.IsOneLine ∧ config'.style.lead = config.style.lead ∧
      ∃ output output', texts config = .ok output ∧ texts config' = .ok output' ∧
        (linesOf output'.native.text).length = (linesOf output.native.text).length ∧
        output'.idl.text = output.idl.text ∧
        SameButIdentities config config' ["CanvasShape"] (linesOf output.native.text)
          (linesOf output'.native.text) := by
  intro config config' texts
  have hconfig : config.IsOneLine := ⟨by decide, by decide⟩
  have hconfig' : config'.IsOneLine := ⟨by decide, by decide⟩
  refine ⟨hconfig, hconfig', rfl, ?_⟩
  have hclasses : ∀ x ∈ loadedFrom shapeSchema (spaceOverrides ["SHAPE"]) config,
      (x.2.2.worklist.filter (x.2.2.HoldsInterface ·)).map (·.projectedName) = ["CanvasShape"] := by
    decide +kernel
  obtain ⟨shape, hshape⟩ := exists_generateFromTexts_shape
  obtain ⟨e, herror, -⟩ | ⟨output, output', houtput, houtput', _, _, r, _, hstages, -, -, -, hlines,
      hlead⟩ :=
    configurations_agree shapeSchema.document (some (spaceOverrides ["SHAPE"]).document) hconfig
      hconfig'
  · cases hshape.symm.trans herror
  · obtain ⟨hidl, hnative⟩ := hlead rfl
    rw [hclasses _ (hstages.loadedFrom_eq written_shapeSchema written_shapeOverrides)] at hnative
    exact ⟨output, output', houtput, houtput', hlines, hidl, hnative⟩

end TypeProjection.Projection
