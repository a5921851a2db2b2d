/-
  Proofs/Override/Meaning.lean --- what the element tree of overrides means.

  Every element that gives an override gives one record under one key.  A document
  is accepted if all its records can be told and no key is used twice among structs
  or among other types, and then the order of the elements does not matter; the
  first element that stands against it is reported (`readOverrides_verdict`).
-/
import TypeProjection.Proofs.Override.Elements
import TypeProjection.Proofs.Table

set_option autoImplicit false

namespace TypeProjection

open Markup (Element Tag)

/-! ## Keys and records -/

namespace OverrideSite

/-- The key of the override: the name of the element, in a namespace behind the name
of that. -/
def key? (site : OverrideSite) : Option String :=
  (site.tag.value? "Name").map fun name =>
    match site.space with
    | none => name
    | some space => space ++ "::" ++ name

theorem key?_eq (site : OverrideSite) :
    site.key? = (site.tag.value? "Name").map (overrideKey site.space) := by
  obtain ⟨_ | space, tag⟩ := site <;> rfl

/-- What kind of override is told to be defined twice. -/
def kind (site : OverrideSite) : String :=
  if site.IsStruct then "struct override" else "type override"

/-- Whether a struct is to be projected, if that is said at all, is said by one of
four texts. -/
def Legible (site : OverrideSite) : Prop :=
  site.IsStruct → ∀ text, site.tag.value? "ShouldProject" = some text →
    text ∈ ["true", "1", "false", "0"]

instance (site : OverrideSite) : Decidable site.Legible :=
  match h : site.tag.value? "ShouldProject" with
  | none => isTrue fun _ text hvalue => by simp [h] at hvalue
  | some text => decidable_of_iff (site.IsStruct → text ∈ ["true", "1", "false", "0"]) <| by
    simp [Legible, h]

end OverrideSite

/-- The record of a struct, as the attributes of its element say. -/
def StructOverride.ofTag (tag : Tag) : StructOverride where
  guid := tag.value? "Guid"
  rename := tag.value? "ProjectedNameOverride"
  shouldProject := tag.value? "ShouldProject" ∈ [some "true", some "1"]
  qualifier := tag.value? "IdlNamespaceQualifier"

/-- The record of a type that is no struct, as the attributes of its element say. -/
def TypeOverride.ofTag (tag : Tag) : TypeOverride where
  rename := tag.value? "ProjectedNameOverride"
  qualifier := tag.value? "IdlNamespaceQualifier"

/-! ## Documents that are accepted -/

/-- Every override can be told, and no two of structs, nor two of other types, have
the same key. -/
@[mk_iff]
structure Acceptable (sites : List OverrideSite) : Prop where
  /-- Every element has a name. -/
  named : ∀ site ∈ sites, site.key? ≠ none
  /-- Whether a struct is to be projected can be told. -/
  legible : ∀ site ∈ sites, site.Legible
  /-- No key is used twice among structs or among other types. -/
  distinct : sites.Pairwise fun site other =>
    (site.IsStruct ↔ other.IsStruct) → site.key? ≠ other.key?

instance (sites : List OverrideSite) : Decidable (Acceptable sites) :=
  decidable_of_iff _ (acceptable_iff sites).symm

/-- Why an element behind others gives no override. -/
inductive Offends (earlier : List OverrideSite) (site : OverrideSite) : ReadError → Prop where
  /-- it does not say in one of the four ways whether its struct is to be projected -/
  | flag {text : String} (hstruct : site.IsStruct)
    (hvalue : site.tag.value? "ShouldProject" = some text)
    (htext : text ∉ ["true", "1", "false", "0"]) :
    Offends earlier site (.invalidAttribute "Struct" "ShouldProject" text)
  /-- it has no name -/
  | name (hlegible : site.Legible) (hnone : site.tag.value? "Name" = none) :
    Offends earlier site (.missingAttribute site.tag.name "Name")
  /-- one of the others is of the same kind and has the same key -/
  | duplicate {other : OverrideSite} {key : String} (hlegible : site.Legible)
    (hkey : site.key? = some key) (hother : other ∈ earlier)
    (hkind : other.IsStruct ↔ site.IsStruct) (hsame : other.key? = some key) :
    Offends earlier site (.duplicateDefinition site.kind key)

variable {sites earlier : List OverrideSite} {site : OverrideSite}

/-- An element gives an override behind others, or there is a reason why it does
not. -/
theorem acceptable_concat_or_offends (h : Acceptable earlier) (site : OverrideSite) :
    Acceptable (earlier ++ [site]) ∨ ∃ e, Offends earlier site e := by
  by_cases hlegible : site.Legible
  swap
  · simp only [OverrideSite.Legible, not_forall] at hlegible
    obtain ⟨hstruct, text, hvalue, htext⟩ := hlegible
    exact .inr ⟨_, .flag hstruct hvalue htext⟩
  cases hname : site.tag.value? "Name" with
  | none => exact .inr ⟨_, .name hlegible hname⟩
  | some name =>
    have hkey : site.key? = some (overrideKey site.space name) := by
      rw [OverrideSite.key?_eq, hname, Option.map_some]
    by_cases htaken : ∃ other ∈ earlier,
        (other.IsStruct ↔ site.IsStruct) ∧ other.key? = site.key?
    · obtain ⟨other, hother, hkind, hsame⟩ := htaken
      exact .inr ⟨_, .duplicate hlegible hkey hother hkind (hsame.trans hkey)⟩
    · refine .inl ⟨?_, ?_, ?_⟩
      · rw [List.forall_mem_append, List.forall_mem_singleton]
        exact ⟨h.named, by simp [hkey]⟩
      · rw [List.forall_mem_append, List.forall_mem_singleton]
        exact ⟨h.legible, hlegible⟩
      · rw [List.pairwise_append]
        refine ⟨h.distinct, List.pairwise_singleton _ _, ?_⟩
        simp only [List.mem_singleton, forall_eq]
        exact fun other hother hkind hsame => htaken ⟨other, hother, hkind, hsame⟩

/-- What is in front of an acceptable document is acceptable. -/
theorem Acceptable.of_append {later : List OverrideSite} (h : Acceptable (sites ++ later)) :
    Acceptable sites where
  named site hsite := h.named site (List.mem_append_left _ hsite)
  legible site hsite := h.legible site (List.mem_append_left _ hsite)
  distinct := (List.pairwise_append.1 h.distinct).1

/-- The order of the elements does not matter to acceptance. -/
theorem Acceptable.perm {others : List OverrideSite} (h : Acceptable sites)
    (hperm : others.Perm sites) : Acceptable others where
  named site hsite := h.named site (hperm.mem_iff.1 hsite)
  legible site hsite := h.legible site (hperm.mem_iff.1 hsite)
  distinct := hperm.symm.pairwise h.distinct fun hne hkind hsame =>
    hne hkind.symm hsame.symm

/-! ## Entries -/

/-- The entries that the elements of one kind give, in order. -/
def entriesOf {α : Type} (isOfKind : OverrideSite → Bool) (record : Tag → α)
    (sites : List OverrideSite) : List (String × α) :=
  (sites.filter isOfKind).filterMap fun site => site.key?.map (·, record site.tag)

section Entries

variable {α : Type} {isOfKind : OverrideSite → Bool} {record : Tag → α}

theorem mem_entriesOf_iff {key : String} {value : α} :
    (key, value) ∈ entriesOf isOfKind record sites ↔
      ∃ site ∈ sites, isOfKind site = true ∧ site.key? = some key ∧ record site.tag = value := by
  simp [entriesOf, and_assoc]

/-- The keys of the entries are those of the elements of the kind. -/
theorem mem_keys_entriesOf_iff {key : String} :
    key ∈ (entriesOf isOfKind record sites).map Prod.fst ↔
      ∃ site ∈ sites, isOfKind site = true ∧ site.key? = some key := by
  simp [entriesOf, and_assoc]

theorem entriesOf_concat_of_kind (hkind : isOfKind site = true) {key : String}
    (hkey : site.key? = some key) :
    entriesOf isOfKind record (earlier ++ [site]) =
      entriesOf isOfKind record earlier ++ [(key, record site.tag)] := by
  simp [entriesOf, hkind, hkey]

theorem entriesOf_concat_of_other (hkind : isOfKind site = false) :
    entriesOf isOfKind record (earlier ++ [site]) = entriesOf isOfKind record earlier := by
  simp [entriesOf, hkind]

end Entries

/-- The overrides are what the elements give. -/
structure Overrides.Collects (overrides : Overrides) (sites : List OverrideSite) : Prop where
  /-- The entries of structs. -/
  structs : overrides.structs.entries = entriesOf (·.IsStruct) .ofTag sites
  /-- The entries of other types. -/
  types : overrides.types.entries = entriesOf (! ·.IsStruct) .ofTag sites

/-! ## Single elements -/

theorem OverrideSite.key?_eq_some_iff {key : String} :
    site.key? = some key ↔
      ∃ name, site.tag.value? "Name" = some name ∧ overrideKey site.space name = key := by
  rw [OverrideSite.key?_eq, Option.map_eq_some_iff]

/-- A struct whose flag can be told is to be projected if the flag says so. -/
theorem shouldProjectOfTag_of_legible (hstruct : site.IsStruct) (h : site.Legible) :
    shouldProjectOfTag site.tag = .ok (StructOverride.ofTag site.tag).shouldProject := by
  unfold shouldProjectOfTag StructOverride.ofTag
  cases hvalue : site.tag.value? "ShouldProject" with
  | none => rfl
  | some text =>
    have htext := h hstruct text hvalue
    simp only [List.mem_cons, List.not_mem_nil, or_false] at htext
    rcases htext with rfl | rfl | rfl | rfl <;> rfl

/-- An override that can be told and has a key is added under the key. -/
theorem addSite_of_key {key : String} (h : site.Legible) (hkey : site.key? = some key)
    (overrides : Overrides) :
    overrides.addSite site =
      if site.IsStruct then overrides.addStruct key (.ofTag site.tag)
      else overrides.addType key (.ofTag site.tag) := by
  obtain ⟨name, hname, rfl⟩ := OverrideSite.key?_eq_some_iff.1 hkey
  unfold Overrides.addSite
  by_cases hstruct : site.IsStruct
  · rw [if_pos hstruct, if_pos hstruct, addStructOfTag, structOverrideOfTag,
      shouldProjectOfTag_of_legible hstruct h, requireAttribute, hname]
    rfl
  · rw [if_neg hstruct, if_neg hstruct, addTypeOfTag, typeOverrideOfTag, requireAttribute, hname]
    rfl

/-- An override that can be told and has no name is refused for that. -/
theorem addSite_of_nameless (h : site.Legible) (hname : site.tag.value? "Name" = none)
    (overrides : Overrides) :
    overrides.addSite site = .error (.missingAttribute site.tag.name "Name") := by
  unfold Overrides.addSite
  by_cases hstruct : site.IsStruct
  · rw [if_pos hstruct, addStructOfTag, structOverrideOfTag,
      shouldProjectOfTag_of_legible hstruct h, requireAttribute, hname, hstruct]
    rfl
  · rw [if_neg hstruct, addTypeOfTag, typeOverrideOfTag, requireAttribute, hname]
    rfl

/-- A flag that is none of the four texts is refused before all else. -/
theorem addSite_of_illegible {text : String} (hstruct : site.IsStruct)
    (hvalue : site.tag.value? "ShouldProject" = some text)
    (htext : text ∉ ["true", "1", "false", "0"]) (overrides : Overrides) :
    overrides.addSite site = .error (.invalidAttribute "Struct" "ShouldProject" text) := by
  have hnone : readFlag? text = none := by
    simp only [List.mem_cons, List.not_mem_nil, or_false, not_or] at htext
    simp [readFlag?, htext]
  rw [Overrides.addSite, if_pos hstruct, addStructOfTag, structOverrideOfTag, shouldProjectOfTag,
    hvalue]
  dsimp only
  rw [hnone]
  rfl

namespace Overrides

variable {overrides : Overrides} {key : String}

theorem addStruct_of_notMem (h : key ∉ overrides.structs.keys) (record : StructOverride) :
    ∃ structs, overrides.addStruct key record = .ok { overrides with structs } ∧
      structs.entries = overrides.structs.entries ++ [(key, record)] := by
  obtain ⟨structs, hinsert, hentries⟩ := Table.exists_insert?_of_notMem h record
  exact ⟨structs, by rw [addStruct, hinsert], hentries⟩

theorem addStruct_of_mem (h : key ∈ overrides.structs.keys) (record : StructOverride) :
    overrides.addStruct key record = .error (.duplicateDefinition "struct override" key) := by
  rw [addStruct, Table.insert?_eq_none_iff.2 h]

theorem addType_of_notMem (h : key ∉ overrides.types.keys) (record : TypeOverride) :
    ∃ types, overrides.addType key record = .ok { overrides with types } ∧
      types.entries = overrides.types.entries ++ [(key, record)] := by
  obtain ⟨types, hinsert, hentries⟩ := Table.exists_insert?_of_notMem h record
  exact ⟨types, by rw [addType, hinsert], hentries⟩

theorem addType_of_mem (h : key ∈ overrides.types.keys) (record : TypeOverride) :
    overrides.addType key record = .error (.duplicateDefinition "type override" key) := by
  rw [addType, Table.insert?_eq_none_iff.2 h]

namespace Collects

/-- The keys of structs are those that the elements give. -/
theorem mem_keys_structs_iff (h : overrides.Collects sites) :
    key ∈ overrides.structs.keys ↔ ∃ site ∈ sites, site.IsStruct ∧ site.key? = some key := by
  rw [Table.keys, h.structs, mem_keys_entriesOf_iff]
  simp

/-- The keys of other types are those that the elements give. -/
theorem mem_keys_types_iff (h : overrides.Collects sites) :
    key ∈ overrides.types.keys ↔ ∃ site ∈ sites, ¬ site.IsStruct ∧ site.key? = some key := by
  rw [Table.keys, h.types, mem_keys_entriesOf_iff]
  simp

/-- An element that is acceptable behind the others is collected with them. -/
theorem addSite (h : overrides.Collects earlier) (hsites : Acceptable (earlier ++ [site])) :
    ∃ overrides', overrides.addSite site = .ok overrides' ∧
      overrides'.Collects (earlier ++ [site]) := by
  have hmem : site ∈ earlier ++ [site] := by simp
  obtain ⟨key, hkey⟩ := Option.ne_none_iff_exists'.1 (hsites.named site hmem)
  have hfresh : ∀ other ∈ earlier, (other.IsStruct ↔ site.IsStruct) → other.key? ≠ some key := by
    intro other hother
    rw [← hkey]
    exact (List.pairwise_append.1 hsites.distinct).2.2 other hother site (by simp)
  rw [addSite_of_key (hsites.legible site hmem) hkey]
  by_cases hstruct : site.IsStruct
  · have hnew : key ∉ overrides.structs.keys := by
      rw [h.mem_keys_structs_iff]
      rintro ⟨other, hother, hkind, hsame⟩
      exact hfresh other hother (iff_of_true hkind hstruct) hsame
    obtain ⟨structs, hadd, hentries⟩ := addStruct_of_notMem hnew (.ofTag site.tag)
    refine ⟨_, (if_pos hstruct).trans hadd, ?_, ?_⟩
    · rw [hentries, h.structs, entriesOf_concat_of_kind (by simpa using hstruct) hkey]
    · rw [entriesOf_concat_of_other (by simpa using hstruct)]
      exact h.types
  · have hnew : key ∉ overrides.types.keys := by
      rw [h.mem_keys_types_iff]
      rintro ⟨other, hother, hkind, hsame⟩
      exact hfresh other hother (iff_of_false hkind hstruct) hsame
    obtain ⟨types, hadd, hentries⟩ := addType_of_notMem hnew (.ofTag site.tag)
    refine ⟨_, (if_neg hstruct).trans hadd, ?_, ?_⟩
    · rw [entriesOf_concat_of_other (by simpa using hstruct)]
      exact h.structs
    · rw [hentries, h.types, entriesOf_concat_of_kind (by simpa using hstruct) hkey]

/-- An element that offends behind the others is refused for that. -/
theorem addSite_of_offends (h : overrides.Collects earlier) {e : ReadError}
    (hoffends : Offends earlier site e) : overrides.addSite site = .error e := by
  cases hoffends with
  | flag hstruct hvalue htext => exact addSite_of_illegible hstruct hvalue htext overrides
  | name hlegible hnone => exact addSite_of_nameless hlegible hnone overrides
  | @duplicate other key hlegible hkey hother hkind hsame =>
    rw [addSite_of_key hlegible hkey, OverrideSite.kind]
    by_cases hstruct : site.IsStruct
    · rw [if_pos hstruct, if_pos hstruct]
      exact addStruct_of_mem
        (h.mem_keys_structs_iff.2 ⟨other, hother, hkind.2 hstruct, hsame⟩) _
    · rw [if_neg hstruct, if_neg hstruct]
      exact addType_of_mem
        (h.mem_keys_types_iff.2 ⟨other, hother, hkind.not.2 hstruct, hsame⟩) _

end Collects

end Overrides

/-! ## Look-ups -/

namespace Overrides.Collects

variable {overrides : Overrides} {key : String}

/-- Looking up a struct gives the record of the element with the key. -/
theorem struct?_eq_some_iff (h : overrides.Collects sites) {record : StructOverride} :
    overrides.struct? key = some record ↔
      ∃ site ∈ sites, site.IsStruct ∧ site.key? = some key ∧ .ofTag site.tag = record := by
  rw [struct?, Table.get?_eq_some_iff, h.structs, mem_entriesOf_iff]
  simp

/-- Looking up another type gives the record of the element with the key. -/
theorem type?_eq_some_iff (h : overrides.Collects sites) {record : TypeOverride} :
    overrides.type? key = some record ↔
      ∃ site ∈ sites, ¬ site.IsStruct ∧ site.key? = some key ∧ .ofTag site.tag = record := by
  rw [type?, Table.get?_eq_some_iff, h.types, mem_entriesOf_iff]
  simp

/-- Every element gives one override. -/
theorem size_eq (h : overrides.Collects sites) (hnamed : ∀ site ∈ sites, site.key? ≠ none) :
    overrides.size = sites.length := by
  have hlength {α : Type} (isOfKind : OverrideSite → Bool) (record : Tag → α) :
      (entriesOf isOfKind record sites).length = sites.countP isOfKind := by
    rw [entriesOf, List.length_filterMap_eq_countP, List.countP_filter]
    refine List.countP_congr fun site hsite => ?_
    simp [Option.isSome_iff_ne_none, hnamed site hsite]
  rw [size, Table.size, Table.size, h.structs, h.types, hlength, hlength]
  have hsplit := List.length_eq_countP_add_countP (fun site => decide site.IsStruct) (l := sites)
  simpa using hsplit.symm

/-- Other elements that are the same in another order give the same overrides. -/
theorem perm {others : List OverrideSite} {overrides' : Overrides} (h : overrides.Collects sites)
    (h' : overrides'.Collects others) (hperm : others.Perm sites) (key : String) :
    overrides'.struct? key = overrides.struct? key ∧
      overrides'.type? key = overrides.type? key := by
  constructor
  · ext record
    simp only [h.struct?_eq_some_iff, h'.struct?_eq_some_iff, hperm.mem_iff]
  · ext record
    simp only [h.type?_eq_some_iff, h'.type?_eq_some_iff, hperm.mem_iff]

end Overrides.Collects

/-! ## Runs over elements -/

namespace Overrides

theorem collects_empty : empty.Collects [] :=
  ⟨rfl, rfl⟩

/-- The overrides of acceptable elements are collected. -/
theorem exists_collects (h : Acceptable sites) :
    ∃ overrides, sites.foldlM Overrides.addSite empty = .ok overrides ∧
      overrides.Collects sites := by
  induction sites using List.reverseRecOn with
  | nil => exact ⟨empty, rfl, collects_empty⟩
  | append_singleton earlier site ih =>
    obtain ⟨overrides, hfold, hcollects⟩ := ih h.of_append
    obtain ⟨overrides', hadd, hcollects'⟩ := hcollects.addSite h
    refine ⟨overrides', ?_, hcollects'⟩
    rw [List.foldlM_append, hfold]
    show [site].foldlM Overrides.addSite overrides = _
    rw [List.foldlM_cons, hadd]
    rfl

/-- An element that offends behind acceptable ones is reported. -/
theorem foldlM_addSite_of_offends (h : Acceptable earlier) {e : ReadError}
    (hoffends : Offends earlier site e) (later : List OverrideSite) :
    (earlier ++ site :: later).foldlM Overrides.addSite empty = .error e := by
  obtain ⟨overrides, hfold, hcollects⟩ := exists_collects h
  rw [List.foldlM_append, hfold]
  show (site :: later).foldlM Overrides.addSite overrides = _
  rw [List.foldlM_cons, hcollects.addSite_of_offends hoffends]
  rfl

end Overrides

/-- Elements are acceptable, or there is a first one that offends behind the
others. -/
theorem acceptable_or_offends (sites : List OverrideSite) :
    Acceptable sites ∨ ∃ before site after e,
      sites = before ++ site :: after ∧ Acceptable before ∧ Offends before site e := by
  induction sites using List.reverseRecOn with
  | nil => exact .inl ⟨by simp, by simp, .nil⟩
  | append_singleton earlier site ih =>
    rcases ih with h | ⟨before, other, after, e, rfl, hbefore, hoffends⟩
    · rcases acceptable_concat_or_offends h site with hall | ⟨e, hoffends⟩
      · exact .inl hall
      · exact .inr ⟨earlier, site, [], e, rfl, h, hoffends⟩
    · exact .inr ⟨before, other, after ++ [site], e, by simp, hbefore, hoffends⟩

/-! ## Documents -/

/-- However the element tree of overrides is written, it is accepted exactly if all
of its overrides can be told and no key is used twice among structs or among other
types.  Then looking up a key gives the record of the element with the key, there
are as many overrides as elements that give them, and a document with the same
elements in another order gives the same overrides.  Otherwise the first element
that offends behind the others is reported. -/
theorem readOverrides_verdict {root : Element} {text : String} (h : WrittenOverrides root text) :
    ((∃ overrides, readOverrides text = .ok overrides) ↔ Acceptable (overrideSites root)) ∧
    (∀ overrides, readOverrides text = .ok overrides →
      (∀ key record, overrides.struct? key = some record ↔
        ∃ site ∈ overrideSites root,
          site.IsStruct ∧ site.key? = some key ∧ .ofTag site.tag = record) ∧
      (∀ key record, overrides.type? key = some record ↔
        ∃ site ∈ overrideSites root,
          ¬ site.IsStruct ∧ site.key? = some key ∧ .ofTag site.tag = record) ∧
      overrides.size = (overrideSites root).length ∧
      ∀ root' text', WrittenOverrides root' text' →
        (overrideSites root').Perm (overrideSites root) →
        ∃ overrides', readOverrides text' = .ok overrides' ∧
          overrides'.size = overrides.size ∧
          ∀ key, overrides'.struct? key = overrides.struct? key ∧
            overrides'.type? key = overrides.type? key) ∧
    ∀ e, readOverrides text = .error e ↔ ∃ before site after,
      overrideSites root = before ++ site :: after ∧ Acceptable before ∧
        Offends before site e := by
  have hread := readOverrides_of_written h
  rcases acceptable_or_offends (overrideSites root) with
    hall | ⟨before, site, after, e, hsites, hbefore, hoffends⟩
  · obtain ⟨overrides, hfold, hcollects⟩ := Overrides.exists_collects hall
    have hsize := hcollects.size_eq hall.named
    rw [hread, hfold]
    refine ⟨iff_of_true ⟨overrides, rfl⟩ hall, ?_, fun e => ?_⟩
    · rintro _ ⟨⟩
      refine ⟨fun _ _ => hcollects.struct?_eq_some_iff, fun _ _ => hcollects.type?_eq_some_iff,
        hsize, fun root' text' h' hperm => ?_⟩
      obtain ⟨overrides', hfold', hcollects'⟩ := Overrides.exists_collects (hall.perm hperm)
      have hsize' := hcollects'.size_eq (hall.perm hperm).named
      exact ⟨overrides', (readOverrides_of_written h').trans hfold',
        by rw [hsize', hsize, hperm.length_eq], hcollects.perm hcollects' hperm⟩
    · refine iff_of_false (by simp) ?_
      rintro ⟨before, site, after, hsites, hbefore, hoffends⟩
      have herror := Overrides.foldlM_addSite_of_offends hbefore hoffends after
      rw [← hsites, hfold] at herror
      cases herror
  · have herror := Overrides.foldlM_addSite_of_offends hbefore hoffends after
    rw [← hsites] at herror
    rw [hread, herror]
    refine ⟨iff_of_false (by simp) fun hall => ?_, by simp, fun e' => ?_⟩
    · obtain ⟨overrides, hfold, -⟩ := Overrides.exists_collects hall
      rw [herror] at hfold
      cases hfold
    · rw [Except.error.injEq]
      constructor
      · rintro rfl
        exact ⟨before, site, after, hsites, hbefore, hoffends⟩
      · rintro ⟨before', site', after', hsites', hbefore', hoffends'⟩
        have herror' := Overrides.foldlM_addSite_of_offends hbefore' hoffends' after'
        rw [← hsites', herror] at herror'
        exact Except.error.inj herror'

/-- Overrides of two structs with one name, in a namespace and outside it. -/
def boxOverrides : Element :=
  ⟨⟨"Overrides", []⟩,
    [⟨⟨"Struct", [⟨"Name", "Box"⟩, ⟨"ShouldProject", "1"⟩]⟩, []⟩,
      ⟨⟨"Namespace", [⟨"Name", "Shapes"⟩]⟩, [⟨⟨"Struct", [⟨"Name", "Box"⟩]⟩, []⟩]⟩]⟩

/-- The overrides of the boxes as a text. -/
def boxOverridesText : String :=
  "<Overrides><Struct Name=\"Box\" ShouldProject=\"1\"></Struct>" ++
    "<Namespace Name=\"Shapes\"><Struct Name=\"Box\"></Struct></Namespace></Overrides>"

set_option maxRecDepth 4000 in
theorem document_boxOverrides : boxOverrides.document = boxOverridesText := by
  rfl

/-- The override of a box is found under its qualified name, and that of the other one under
its bare name. -/
theorem readOverrides_verdict_box :
    WrittenOverrides boxOverrides boxOverridesText ∧
      ∃ overrides, readOverrides boxOverridesText = .ok overrides ∧ overrides.size = 2 ∧
        overrides.struct? "Shapes::Box" = some ⟨none, none, false, none⟩ ∧
        overrides.struct? "Box" = some ⟨none, none, true, none⟩ := by
  have hwritten : WrittenOverrides boxOverrides boxOverridesText :=
    ⟨document_boxOverrides ▸ Markup.written_document (by decide), rfl, by decide, by decide⟩
  obtain ⟨hok, hfound, -⟩ := readOverrides_verdict hwritten
  obtain ⟨overrides, hread⟩ := hok.2 (by decide)
  obtain ⟨hstructs, -, hsize, -⟩ := hfound overrides hread
  refine ⟨hwritten, overrides, hread, hsize, (hstructs _ _).2 ?_, (hstructs _ _).2 ?_⟩
  · exact ⟨_, List.mem_cons_of_mem _ List.mem_cons_self, by decide, by decide, by decide⟩
  · exact ⟨_, List.mem_cons_self, by decide, by decide, by decide⟩

end TypeProjection
