/-
  Proofs/Projection/Unused.lean --- declarations that no text depends on.

  Both texts are made of the structs on the worklist, the fields that these inherit, and the
  types of their fields.  A declaration that is none of these can be taken out of a schema,
  and one with a new name can be put in, without a change of either text
  (`unused_declaration_verdict`).
-/
import TypeProjection.Proofs.Projection.Shown
import TypeProjection.Proofs.Projection.Worklist
import TypeProjection.Proofs.Registry.Added

set_option autoImplicit false

namespace TypeProjection

/-- Nothing that is emitted needs the type with a name. -/
@[mk_iff]
structure Registry.Unused (r : Registry) (key : String) : Prop where
  /-- It is not on the worklist itself. -/
  emitted : ∀ s ∈ r.worklist, s.qualifiedName ≠ key
  /-- No struct extends it. -/
  parent : ∀ s ∈ r.structs, s.parent ≠ some key
  /-- No struct on the worklist has a field of this type, inherited or its own. -/
  field : ∀ s ∈ r.worklist, ∀ f ∈ s.fields, f.typeName ≠ key

instance (r : Registry) : DecidablePred r.Unused := fun key =>
  decidable_of_iff _ (r.unused_iff key).symm

variable {schema schema' : Schema} {overrides : Overrides} {style : NameStyle} {d : Declaration}
  {r r' : Registry}

/-- A declaration with a new name that is not selected is not emitted. -/
theorem emitted_ne_of_not_selected (hr' : load schema' overrides style = .ok r')
    (h : d.key ∉ schema'.selectedKeys overrides) : ∀ s ∈ r'.worklist, s.qualifiedName ≠ d.key := by
  intro s hs heq
  rw [← map_qualifiedName_worklist hr'] at h
  exact h (heq ▸ List.mem_map_of_mem hs)

namespace Projection

variable {config : Config} {output : Output}

/-- The types of the fields of structs that are emitted are declared. -/
theorem typeName_mem_keys_of_generate (hr : load schema overrides style = .ok r)
    (houtput : generate r config = .ok output) {s : StructType} (hs : s ∈ r.worklist)
    {f : StructField} (hf : f ∈ s.fields) : f.typeName ∈ schema.keys := by
  obtain ⟨hall, -⟩ := generate_eq_ok_iff.1 houtput
  obtain ⟨type, htype⟩ := (hall s hs).known f hf
  obtain ⟨d, hd, hkey, -⟩ := (get?_of_load hr).1 htype
  rw [← schema.map_key_declarations, ← hkey]
  exact List.mem_map_of_mem hd

/-- Let one schema have a declaration more than another.  If nothing that is emitted of the
larger one needs the declaration, and both texts are generated for it, then the smaller one
is loaded and gives the same texts.  If both texts are generated for the smaller one, and
the declaration has a new name, is not selected, and extends at most a declared struct
without a parent, then the larger one is loaded and gives the same texts, and nothing that
is emitted of it needs the declaration. -/
theorem unused_declaration_verdict (overrides : Overrides) (config : Config)
    {schema schema' : Schema} {d : Declaration} (h : schema.Adds d schema') :
    (∀ r' output, load schema' overrides config.style = .ok r' →
      generate r' config = .ok output → r'.Unused d.key →
        ∃ r, load schema overrides config.style = .ok r ∧ generate r config = .ok output) ∧
    ∀ r output, load schema overrides config.style = .ok r → generate r config = .ok output →
      d.key ∉ schema.keys → d.key ∉ schema'.selectedKeys overrides → schema.ParentDeclared d →
        ∃ r', load schema' overrides config.style = .ok r' ∧ generate r' config = .ok output ∧
          r'.Unused d.key := by
  constructor
  · intro r' output hr' houtput hunused
    obtain ⟨r, hr⟩ := h.exists_load_of_load hr' hunused.parent
    have hworklist := h.worklist_eq hr hr' hunused.parent hunused.emitted
    have hshown : ∀ s ∈ r.worklist, ∀ f ∈ s.fields, ShownAlikeIn r r' f := by
      intro s hs f hf
      have hne := hunused.field s (hworklist ▸ hs) f hf
      rw [ShownAlikeIn, h.get?_eq hr hr' hunused.parent hne]
    exact ⟨r, hr, (generate_congr hworklist hshown config).symm.trans houtput⟩
  · intro r output hr houtput hfresh hnotSelected hdeclared
    obtain ⟨r', hr'⟩ := h.exists_load_of_fresh hr hfresh hdeclared
    have hparent := h.parent_ne_of_fresh hr hr' hfresh hdeclared
    have hemitted := emitted_ne_of_not_selected hr' hnotSelected
    have hworklist := h.worklist_eq hr hr' hparent hemitted
    -- the types of all fields have been declared before
    have hfield : ∀ s ∈ r.worklist, ∀ f ∈ s.fields, f.typeName ≠ d.key := fun s hs f hf heq =>
      hfresh (heq ▸ typeName_mem_keys_of_generate hr houtput hs hf)
    have hshown : ∀ s ∈ r.worklist, ∀ f ∈ s.fields, ShownAlikeIn r r' f := by
      intro s hs f hf
      rw [ShownAlikeIn, h.get?_eq hr hr' hparent (hfield s hs f hf)]
    exact ⟨r', hr', (generate_congr hworklist hshown config).trans houtput,
      hemitted, hparent, hworklist ▸ hfield⟩

/-- The figures without their enum. -/
def figuresUncapped : Schema :=
  { figureSchema with
    namespaces := figureSchema.namespaces.map fun space => { space with enums := [] } }

/-- The figures with a ball, in a namespace of its own, that extends their anchor. -/
def figuresWithBall : Schema :=
  { figureSchema with
    namespaces := figureSchema.namespaces ++ [{ NamespaceDecl.ofNames "Toy" "Toy" with
      structs := [⟨"BALL", some "Geo::ANCHOR", some [⟨"cap", "Geo::CAP"⟩]⟩] }] }

/-- The enum of the figures is not shown, so they make the same texts without it; with a ball
that is not asked for they make the same texts too. -/
theorem unused_declaration_verdict_figures :
    ∃ r output, load figureSchema (figureOverrides true) default = .ok r ∧
      generate r default = .ok output ∧
      (∃ r', load figuresUncapped (figureOverrides true) default = .ok r' ∧
        generate r' default = .ok output) ∧
      ∃ r', load figuresWithBall (figureOverrides true) default = .ok r' ∧
        generate r' default = .ok output := by
  obtain ⟨r, output, hr, houtput⟩ := exists_generate_figures true
  have hcap : figuresUncapped.Adds (.enumeration (.ofNames "Geo" "Geo") "CAP") figureSchema :=
    have hspaces : figuresUncapped.namespaces = [] ++ figuresUncapped.namespaces[0] :: [] := rfl
    .member hspaces (.enumeration ⟨[], [], rfl, rfl⟩)
  have hball : figureSchema.Adds (.struct (some (.ofNames "Toy" "Toy"))
      ⟨"BALL", some "Geo::ANCHOR", some [⟨"cap", "Geo::CAP"⟩]⟩) figuresWithBall :=
    .space ⟨figureSchema.namespaces, [], rfl, rfl⟩ (.struct ⟨[], [], rfl, rfl⟩)
  have hunused : r.Unused "Geo::CAP" := by
    have hany : (load figureSchema (figureOverrides true) default).toOption.any
        (fun r => decide (r.Unused "Geo::CAP")) = true := by
      decide +kernel
    rw [hr] at hany
    exact of_decide_eq_true hany
  have hanchor : figureSchema.DeclaresRoot "Geo::ANCHOR" ⟨"ANCHOR", none, some [⟨"at", "POINT"⟩]⟩ :=
    ⟨some figureSchema.namespaces[0], by decide, by decide, rfl⟩
  refine ⟨r, output, hr, houtput, ?_, ?_⟩
  · exact (unused_declaration_verdict (figureOverrides true) default hcap).1 r output hr houtput
      hunused
  · obtain ⟨r', hr', houtput', -⟩ :=
      (unused_declaration_verdict (figureOverrides true) default hball).2 r output hr houtput
        (by decide) (by decide) (Schema.parentDeclared_struct_iff.2 fun parent hparent =>
          Option.some.inj hparent ▸ ⟨_, hanchor⟩)
    exact ⟨r', hr', houtput'⟩

end Projection

end TypeProjection
