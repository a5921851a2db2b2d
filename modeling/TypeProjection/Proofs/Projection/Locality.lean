/-
  Proofs/Projection/Locality.lean --- what a change of one override changes.

  An override is looked up once, under the name of its own declaration, when the
  descriptor of that declaration is made; whether a schema is loaded is decided before.
  So two loads whose overrides differ under one name differ in the type of that name
  alone, and the texts differ in its own block and in those that show it as the type of a
  field (`overrides_local`).
-/
import TypeProjection.Proofs.Projection.Shown
import TypeProjection.Proofs.Projection.Worklist

set_option autoImplicit false

namespace TypeProjection

variable {schema : Schema} {overrides overrides' : Overrides} {style : NameStyle} {key : String}
  {r r' : Registry}

/-- Overrides that are the same under every name but one. -/
structure Overrides.AgreeExcept (overrides : Overrides) (key : String)
    (overrides' : Overrides) : Prop where
  /-- Every other struct has the same override, or none, in both. -/
  struct : ∀ other, other ≠ key → overrides'.struct? other = overrides.struct? other
  /-- So has every other type. -/
  type : ∀ other, other ≠ key → overrides'.type? other = overrides.type? other

/-! ## Loading -/

/-- The finished type of a declaration depends on the overrides under its own name alone. -/
theorem Overrides.AgreeExcept.finished_eq (h : overrides.AgreeExcept key overrides')
    {d : Declaration} (hd : d.key ≠ key) :
    schema.finished overrides' style d = schema.finished overrides style d := by
  have hstruct := h.struct d.key hd
  have htype := h.type d.key hd
  cases d <;>
    simp only [Schema.finished, Schema.finishedStruct, Declaration.describe, hstruct, htype]

/-- Every other name stands for the same type, or for none, in both registries. -/
theorem Overrides.AgreeExcept.get?_eq (h : overrides.AgreeExcept key overrides')
    (hr : load schema overrides style = .ok r) (hr' : load schema overrides' style = .ok r')
    {other : String} (hother : other ≠ key) : r'.get? other = r.get? other := by
  refine Option.ext fun type => ?_
  rw [get?_of_load hr, get?_of_load hr']
  refine exists_congr fun d => and_congr_right fun _ => and_congr_right fun hd => ?_
  rw [h.finished_eq (hd ▸ hother)]

/-! ## Worklists -/

/-- Both worklists have the same structs in the same order, apart from the one with the
given name; that stands at one place in both, or is missing from one of them or both. -/
theorem Overrides.AgreeExcept.exists_worklists (h : overrides.AgreeExcept key overrides')
    (hr : load schema overrides style = .ok r) (hr' : load schema overrides' style = .ok r') :
    ∃ (before : List StructType) (old new : Option StructType) (after : List StructType),
      r.worklist = before ++ old.toList ++ after ∧ r'.worklist = before ++ new.toList ++ after ∧
      (∀ s ∈ old.toList ++ new.toList, s.qualifiedName = key) ∧
      ∀ s ∈ before ++ after, s.qualifiedName ≠ key := by
  have hnames := nodup_keys_of_load hr
  rw [worklist_of_load hr, worklist_of_load hr']
  rw [← schema.map_key_declarations] at hnames
  -- what stands at other names is emitted alike, under its own name
  have hsame : ∀ ds : List Declaration, (∀ d ∈ ds, d.key ≠ key) →
      ds.filterMap (schema.emitted? overrides' style) =
          ds.filterMap (schema.emitted? overrides style) ∧
        ∀ s ∈ ds.filterMap (schema.emitted? overrides style), s.qualifiedName ≠ key := by
    intro ds hds
    refine ⟨List.filterMap_congr fun d hd => ?_, fun s hs => ?_⟩
    · rw [Schema.emitted?, Schema.emitted?, h.finished_eq (hds d hd)]
    · obtain ⟨d, hd, hemitted⟩ := List.mem_filterMap.1 hs
      rw [schema.qualifiedName_of_emitted? hemitted]
      exact hds d hd
  by_cases hkey : key ∈ schema.declarations.map Declaration.key
  · obtain ⟨d, hd, rfl⟩ := List.mem_map.1 hkey
    obtain ⟨before, after, hsplit⟩ := List.append_of_mem hd
    rw [hsplit, List.map_append, List.map_cons, List.nodup_middle, List.nodup_cons,
      ← List.map_append] at hnames
    have hothers : ∀ d' ∈ before ++ after, d'.key ≠ d.key := fun d' hd' heq =>
      hnames.1 (heq ▸ List.mem_map_of_mem hd')
    obtain ⟨hbefore, hbefore'⟩ := hsame before fun d' hd' =>
      hothers d' (List.mem_append_left _ hd')
    obtain ⟨hafter, hafter'⟩ := hsame after fun d' hd' =>
      hothers d' (List.mem_append_right _ hd')
    refine ⟨_, schema.emitted? overrides style d, schema.emitted? overrides' style d, _,
      by rw [hsplit, filterMap_middle],
      by rw [hsplit, filterMap_middle, hbefore, hafter], fun s hs => ?_, ?_⟩
    · simp only [List.mem_append, Option.mem_toList] at hs
      rcases hs with hs | hs <;> exact schema.qualifiedName_of_emitted? hs
    · intro s hs
      rcases List.mem_append.1 hs with hs | hs
      · exact hbefore' s hs
      · exact hafter' s hs
  · obtain ⟨hall, hall'⟩ := hsame schema.declarations fun d hd heq =>
      hkey (heq ▸ List.mem_map_of_mem hd)
    refine ⟨schema.declarations.filterMap (schema.emitted? overrides style), none, none, [],
      by simp, by simp [hall], by simp, ?_⟩
    rwa [List.append_nil]

/-! ## Asking for one struct more -/

/-- The override of a struct without a rename is changed to ask for the struct, which stands
in a namespace and has a field list. -/
structure Overrides.TurnsOn (overrides : Overrides) (schema : Schema) (key : String)
    (overrides' : Overrides) : Prop where
  /-- The struct can be emitted. -/
  declared : ∃ space decl, .struct (some space) decl ∈ schema.declarations ∧
    space.qualify decl.name = key ∧ decl.fields ≠ none
  /-- Nothing but the request changes. -/
  asked : ∃ o, overrides.struct? key = some o ∧ o.rename = none ∧ o.shouldProject = false ∧
    overrides'.struct? key = some { o with shouldProject := true }

/-- What is emitted is asked for. -/
theorem asks_of_mem_worklist (h : load schema overrides style = .ok r) {s : StructType}
    (hs : s ∈ r.worklist) : overrides.Asks s.qualifiedName := by
  rw [worklist_eq_selected h] at hs
  obtain ⟨⟨space, decl⟩, hx, rfl⟩ := List.mem_map.1 hs
  obtain ⟨home, -, hdecl⟩ := List.mem_flatMap.1 hx
  obtain ⟨decl', hdecl', heq⟩ := List.mem_map.1 hdecl
  obtain ⟨rfl, rfl⟩ := Prod.mk.inj heq
  rw [schema.qualifiedName_finishedStruct]
  exact (of_decide_eq_true (List.mem_filter.1 hdecl').2).2

/-- Only the worklist with the change has the struct that is asked for. -/
theorem Overrides.TurnsOn.exists_new (hon : overrides.TurnsOn schema key overrides')
    (hr : load schema overrides style = .ok r) (hr' : load schema overrides' style = .ok r') :
    (∀ s ∈ r.worklist, s.qualifiedName ≠ key) ∧
      ∃ s ∈ r'.worklist, s.qualifiedName = key := by
  obtain ⟨o, ho, -, hold, ho'⟩ := hon.asked
  constructor
  · rintro s hs rfl
    obtain ⟨o', ho₁, hasks⟩ := asks_of_mem_worklist hr hs
    obtain rfl : o = o' := Option.some.inj (ho.symm.trans ho₁)
    exact absurd (hold.symm.trans hasks) Bool.false_ne_true
  · obtain ⟨space, decl, hd, rfl, hfields⟩ := hon.declared
    refine ⟨_, (mem_worklist_of_load_iff hr' hd).2 ⟨⟨space, rfl⟩, hfields, _, ho', rfl⟩, ?_⟩
    exact schema.qualifiedName_finishedStruct (some space) decl

/-- To ask for a struct without a rename changes nothing that is shown of it. -/
theorem Overrides.TurnsOn.shownAlike (h : overrides.AgreeExcept key overrides')
    (hon : overrides.TurnsOn schema key overrides') (hr : load schema overrides style = .ok r)
    (hr' : load schema overrides' style = .ok r') (f : StructField) : ShownAlikeIn r' r f := by
  by_cases hf : f.typeName = key
  · obtain ⟨space, decl, hd, rfl, -⟩ := hon.declared
    obtain ⟨o, ho, hrename, -, ho'⟩ := hon.asked
    have hkey : (Declaration.struct (some space) decl).key = space.qualify decl.name := rfl
    have hget := get?_struct_of_load hr hd
    have hget' := get?_struct_of_load hr' hd
    rw [hkey] at hget hget'
    rw [ShownAlikeIn, hf, hget, hget', Option.map_some, Option.map_some]
    simp only [ProjectedType.shown, ProjectedType.projectedName, ProjectedType.qualifier,
      Schema.finishedStruct, describeStruct, projectedStructName, hkey, ho, ho', Option.bind_some,
      hrename, Option.map_none]
  · rw [ShownAlikeIn, h.get?_eq hr hr' hf]

namespace Projection

/-- Two overrides that differ under one name load a schema alike: not at all, for the same
reason, or to registries that differ in the type of that name at most.  If both registries
are generated from, the structs with other names are emitted in both or in none, in one
order, and each adds the same to both texts unless it has a field of the type with that
name.  If the change is to ask for a struct that is not renamed, then all others add what
they added before, and what it adds itself is put in at its place among the declarations. -/
theorem overrides_local (schema : Schema) (config : Config) {key : String}
    {overrides overrides' : Overrides} (h : overrides.AgreeExcept key overrides') :
    (∀ e, load schema overrides config.style = .error e ↔
      load schema overrides' config.style = .error e) ∧
    ∀ r r', load schema overrides config.style = .ok r →
      load schema overrides' config.style = .ok r' →
      List.Forall₂ (fun entry entry' =>
          entry'.1 = entry.1 ∧ (entry.1 ≠ key → entry'.2 = entry.2))
        r.types.entries r'.types.entries ∧
      ∀ output output', generate r config = .ok output → generate r' config = .ok output' →
        output = .concat (r.worklist.map (ownOutput r config)) ∧
        output' = .concat (r'.worklist.map (ownOutput r' config)) ∧
        ∃ (before : List StructType) (old new : Option StructType) (after : List StructType),
          r.worklist = before ++ old.toList ++ after ∧
          r'.worklist = before ++ new.toList ++ after ∧
          (∀ s ∈ old.toList ++ new.toList, s.qualifiedName = key) ∧
          (∀ s ∈ before ++ after, s.qualifiedName ≠ key ∧
            ((∀ f ∈ s.fields, f.typeName ≠ key) →
              ownOutput r' config s = ownOutput r config s)) ∧
          (overrides.TurnsOn schema key overrides' → ∃ s, old = none ∧ new = some s ∧
            (before ++ s :: after).map StructType.qualifiedName = schema.selectedKeys overrides' ∧
            output = .concat ((before ++ after).map (ownOutput r config)) ∧
            output' = .concat (before.map (ownOutput r config) ++
              ownOutput r' config s :: after.map (ownOutput r config))) := by
  refine ⟨fun e => load_eq_error_congr overrides overrides' config.style config.style, ?_⟩
  intro r r' hr hr'
  refine ⟨?_, fun output output' houtput houtput' => ?_⟩
  · rw [entries_of_load hr, entries_of_load hr', List.forall₂_map_left_iff,
      List.forall₂_map_right_iff, List.forall₂_same]
    exact fun d _ => ⟨rfl, h.finished_eq⟩
  · have hconcat := (generate_eq_ok_iff.1 houtput).2
    have hconcat' := (generate_eq_ok_iff.1 houtput').2
    obtain ⟨before, old, new, after, hold, hnew, hkey, hothers⟩ := h.exists_worklists hr hr'
    refine ⟨hconcat, hconcat', before, old, new, after, hold, hnew, hkey,
      fun s hs => ⟨hothers s hs, fun hfields => ?_⟩, fun hon => ?_⟩
    · exact ownOutput_congr fun f hf => by rw [ShownAlikeIn, h.get?_eq hr hr' (hfields f hf)]
    · have hown : ownOutput r' config = ownOutput r config :=
        funext fun s => ownOutput_congr fun f _ => hon.shownAlike h hr hr' f
      -- the struct is missing from the first worklist and stands in the middle of the second
      obtain ⟨hno, s, hs, hskey⟩ := hon.exists_new hr hr'
      have hnone : old = none := by
        refine Option.eq_none_iff_forall_not_mem.2 fun t ht => ?_
        refine hno t ?_ (hkey t (List.mem_append_left _ (Option.mem_toList.2 ht)))
        rw [hold]
        exact List.mem_append_left _ (List.mem_append_right _ (Option.mem_toList.2 ht))
      have hsome : new = some s := by
        rw [hnew, List.append_assoc, List.mem_append, List.mem_append, Option.mem_toList] at hs
        rcases hs with hs | hs | hs
        · exact absurd hskey (hothers s (List.mem_append_left _ hs))
        · exact hs
        · exact absurd hskey (hothers s (List.mem_append_right _ hs))
      subst hnone hsome
      refine ⟨s, rfl, rfl, ?_, ?_, ?_⟩
      · rw [← map_qualifiedName_worklist hr', hnew, Option.toList_some, List.append_assoc,
          List.singleton_append]
      · rw [hconcat, hold, Option.toList_none, List.append_nil]
      · rw [hconcat', hnew, Option.toList_some, List.append_assoc, List.singleton_append,
          List.map_append, List.map_cons, hown]

/-- To ask for the anchor of the figures puts it in behind the shape that extends it. -/
theorem overrides_local_figures :
    ∃ r r' output output', load figureSchema (figureOverrides false) default = .ok r ∧
      load figureSchema (figureOverrides true) default = .ok r' ∧
      generate r default = .ok output ∧ generate r' default = .ok output' ∧
      ∃ (before : List StructType) (anchor : StructType) (after : List StructType),
        (before ++ anchor :: after).map StructType.qualifiedName =
          ["Geo::SHAPE", "Geo::ANCHOR", "Geo::FRAME", "Geo::MARK"] ∧
        output = .concat ((before ++ after).map (ownOutput r default)) ∧
        output' = .concat (before.map (ownOutput r default) ++
          ownOutput r' default anchor :: after.map (ownOutput r default)) := by
  have hagree : (figureOverrides false).AgreeExcept "Geo::ANCHOR" (figureOverrides true) := by
    refine ⟨fun other hother => ?_, fun other _ => rfl⟩
    have hne : (other == "Geo::ANCHOR") = false := beq_eq_false_iff_ne.2 hother
    simp only [Overrides.struct?, Table.get?, figureOverrides, List.lookup_cons, hne]
  have hon : (figureOverrides false).TurnsOn figureSchema "Geo::ANCHOR" (figureOverrides true) :=
    ⟨⟨figureSchema.namespaces[0], ⟨"ANCHOR", none, some [⟨"at", "POINT"⟩]⟩, by decide, by decide,
      by decide⟩, ⟨_, rfl, rfl, rfl, rfl⟩⟩
  obtain ⟨r, output, hr, houtput⟩ := exists_generate_figures false
  obtain ⟨r', output', hr', houtput'⟩ := exists_generate_figures true
  obtain ⟨-, hruns⟩ := overrides_local figureSchema default hagree
  obtain ⟨-, htexts⟩ := hruns r r' hr hr'
  obtain ⟨-, -, before, _, _, after, -, -, -, -, hinsert⟩ := htexts output output' houtput houtput'
  obtain ⟨anchor, -, -, hnames, hold, hnew⟩ := hinsert hon
  have hselected : figureSchema.selectedKeys (figureOverrides true) =
      ["Geo::SHAPE", "Geo::ANCHOR", "Geo::FRAME", "Geo::MARK"] := by
    decide
  exact ⟨r, r', output, output', hr, hr', houtput, houtput', before, anchor, after,
    hnames.trans hselected, hold, hnew⟩

end Projection

end TypeProjection
