/-
  Proofs/Projection/DeclarationOrder.lean --- the order of declarations in both texts.

  Loading knows the declarations under their names, and what a struct adds to the texts is
  made of the types of its fields.  So the order of the declarations shows in the texts as
  the order of the blocks and in nothing else (`rearranged_verdict`), and a change that
  leaves the structs of namespaces in their order does not show at all.
-/
import TypeProjection.Proofs.Projection.Shown
import TypeProjection.Proofs.Projection.Worklist
import TypeProjection.Proofs.Registry.Rearranged

set_option autoImplicit false

namespace TypeProjection.Projection

variable {schema schema' : Schema} {overrides : Overrides} {config : Config} {r r' : Registry}

/-- Registries in which every name stands for the same type show all fields alike. -/
theorem shownAlikeIn_of_get?_eq (h : ∀ key, r'.get? key = r.get? key) (f : StructField) :
    ShownAlikeIn r r' f := by
  rw [ShownAlikeIn, h]

/-- Generation succeeds for the same worklists, whatever their order. -/
theorem exists_generate_of_perm (hget : ∀ key, r'.get? key = r.get? key)
    (hperm : r'.worklist.Perm r.worklist) (h : ∃ output, generate r config = .ok output) :
    ∃ output, generate r' config = .ok output := by
  obtain ⟨output, houtput⟩ := h
  obtain ⟨hall, -⟩ := generate_eq_ok_iff.1 houtput
  refine ⟨_, generate_eq_ok_iff.2 ⟨fun s hs => ?_, rfl⟩⟩
  exact (emittable_congr fun f _ => shownAlikeIn_of_get?_eq hget f).1
    (hall s (hperm.mem_iff.1 hs))

/-- Schemas that differ in the order of their declarations are both loaded or both not, and
both texts are generated for both or for none.  The structs on the worklist are the same,
each adds the same to both texts, and they stand in the order of their own schema, parents
in front of their children or behind them; if the structs of namespaces keep their order,
both texts stay as they are. -/
theorem rearranged_verdict (overrides : Overrides) (config : Config) {schema schema' : Schema}
    (h : Relation.EqvGen Schema.Rearranges schema schema') :
    ((∃ r, load schema overrides config.style = .ok r) ↔
      ∃ r, load schema' overrides config.style = .ok r) ∧
    ∀ r r', load schema overrides config.style = .ok r →
      load schema' overrides config.style = .ok r' →
      ((∃ output, generate r config = .ok output) ↔ ∃ output, generate r' config = .ok output) ∧
      ∀ output output', generate r config = .ok output → generate r' config = .ok output' →
        (Relation.EqvGen Schema.Regroups schema schema' → output' = output) ∧
        r'.worklist.Perm r.worklist ∧
        r.worklist.map StructType.qualifiedName = schema.selectedKeys overrides ∧
        r'.worklist.map StructType.qualifiedName = schema'.selectedKeys overrides ∧
        ∃ own : StructType → Output,
          (∀ s ∈ r.worklist, OwnOutput r config s (own s) ∧ OwnOutput r' config s (own s)) ∧
          output = .concat (r.worklist.map own) ∧ output' = .concat (r'.worklist.map own) := by
  have hsame := Schema.sameUpToOrder_of_rearranged h
  refine ⟨hsame.exists_load_iff overrides config.style, fun r r' hr hr' => ?_⟩
  have hget := hsame.get?_eq hr hr'
  have hperm := hsame.worklist_perm hr hr'
  refine ⟨⟨exists_generate_of_perm hget hperm,
    exists_generate_of_perm (fun key => (hget key).symm) hperm.symm⟩,
    fun output output' houtput houtput' => ?_⟩
  obtain ⟨hall, hconcat⟩ := generate_eq_ok_iff.1 houtput
  obtain ⟨hall', hconcat'⟩ := generate_eq_ok_iff.1 houtput'
  have hown : ownOutput r' config = ownOutput r config :=
    funext fun s => (ownOutput_congr fun f _ => shownAlikeIn_of_get?_eq hget f).symm
  rw [hown] at hconcat'
  refine ⟨fun hregrouped => ?_, hperm, map_qualifiedName_worklist hr,
    map_qualifiedName_worklist hr', ownOutput r config, fun s hs => ?_, hconcat, hconcat'⟩
  · have hworklist :=
      hsame.worklist_eq (Schema.spaced_structs_of_regrouped hregrouped) hr hr'
    rw [hconcat, hconcat', hworklist]
  · refine ⟨ownOutput_of_emittable (hall s hs), ?_⟩
    rw [← hown]
    exact ownOutput_of_emittable (hall' s (hperm.mem_iff.2 hs))

/-- The figures with the structs of their namespace in the opposite order. -/
def figuresBackwards : Schema :=
  { figureSchema with
    namespaces := figureSchema.namespaces.map fun space =>
      { space with structs := space.structs.reverse } }

/-- The figures in two namespaces of one name. -/
def figuresSplit : Schema :=
  { figureSchema with
    namespaces := figureSchema.namespaces.flatMap fun space =>
      [{ space with structs := space.structs.take 2, enums := [] },
        { space with structs := space.structs.drop 2, interfaces := [] }] }

/-- The figures are emitted backwards as well, with the anchor now in front of the shape that
extends it; in two namespaces they make the same texts. -/
theorem rearranged_verdict_figures :
    ∃ r r' output output', load figureSchema (figureOverrides true) default = .ok r ∧
      load figuresBackwards (figureOverrides true) default = .ok r' ∧
      generate r default = .ok output ∧ generate r' default = .ok output' ∧
      r.worklist.map StructType.qualifiedName =
        ["Geo::SHAPE", "Geo::ANCHOR", "Geo::FRAME", "Geo::MARK"] ∧
      r'.worklist.map StructType.qualifiedName =
        ["Geo::MARK", "Geo::FRAME", "Geo::ANCHOR", "Geo::SHAPE"] ∧
      (∃ own, output = .concat (r.worklist.map own) ∧ output' = .concat (r'.worklist.map own)) ∧
      ∃ r'', load figuresSplit (figureOverrides true) default = .ok r'' ∧
        generate r'' default = .ok output := by
  obtain ⟨r, output, hr, houtput⟩ := exists_generate_figures true
  have hbackwards : Relation.EqvGen Schema.Rearranges figureSchema figuresBackwards :=
    .rel _ _ (Schema.Rearranges.structs [] [] (List.reverse_perm _))
  have hsplit : Relation.EqvGen Schema.Regroups figureSchema figuresSplit :=
    .rel _ _ (Schema.Regroups.split [] _ [] (by decide) rfl rfl rfl)
  obtain ⟨hload, hruns⟩ := rearranged_verdict (figureOverrides true) default hbackwards
  obtain ⟨r', hr'⟩ := hload.1 ⟨r, hr⟩
  obtain ⟨hgenerate, htexts⟩ := hruns r r' hr hr'
  obtain ⟨output', houtput'⟩ := hgenerate.1 ⟨output, houtput⟩
  obtain ⟨-, -, hnames, hnames', own, -, hconcat, hconcat'⟩ :=
    htexts output output' houtput houtput'
  obtain ⟨hloadSplit, hrunsSplit⟩ := rearranged_verdict (figureOverrides true) default
    (Relation.EqvGen.mono (fun _ _ => .regroups) _ _ hsplit)
  obtain ⟨r'', hr''⟩ := hloadSplit.1 ⟨r, hr⟩
  obtain ⟨hgenerateSplit, htextsSplit⟩ := hrunsSplit r r'' hr hr''
  obtain ⟨output'', houtput''⟩ := hgenerateSplit.1 ⟨output, houtput⟩
  obtain ⟨hequal, -⟩ := htextsSplit output output'' houtput houtput''
  have hselected : figureSchema.selectedKeys (figureOverrides true) =
      ["Geo::SHAPE", "Geo::ANCHOR", "Geo::FRAME", "Geo::MARK"] := by
    decide
  have hselected' : figuresBackwards.selectedKeys (figureOverrides true) =
      ["Geo::MARK", "Geo::FRAME", "Geo::ANCHOR", "Geo::SHAPE"] := by
    decide
  exact ⟨r, r', output, output', hr, hr', houtput, houtput', hnames.trans hselected,
    hnames'.trans hselected', ⟨own, hconcat, hconcat'⟩, r'', hr'', hequal hsplit ▸ houtput''⟩

end TypeProjection.Projection
