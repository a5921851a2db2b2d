/-
  Proofs/Registry/Indexed.lean --- the registry as a row of types and an index.

  A registry that is looked up often keeps its types in a row and the position of
  every name in an index, and it rewrites the row in place when registration
  ends.  Looking up takes a position on trust.  Here such a registry is run next
  to the one that keeps names and types together: after any calls the index is a
  one-to-one map from the accepted names onto the positions of the row, so every
  position that is taken on trust is one, and both give the same answers.
-/
import TypeProjection.Proofs.Registry.Building
import TypeProjection.Proofs.Registry.Registration

set_option autoImplicit false

namespace TypeProjection.Registry

/-- A registry in two containers. -/
structure Indexed where
  /-- The types, in the order of registration. -/
  types : Array ProjectedType
  /-- The position of the type of every name. -/
  index : Std.HashMap String Nat

namespace Indexed

/-! ## Operations -/

/-- Nothing is registered. -/
def empty : Indexed :=
  ⟨#[], ∅⟩

/-- Registers a type: the answer, and the containers afterwards. -/
def register (x : Indexed) (name : String) (type : ProjectedType) :
    Except SchemaError Unit × Indexed :=
  if x.index.contains name then (.error (.duplicateType name), x)
  else (.ok (), ⟨x.types.push type, x.index.insert name x.types.size⟩)

/-- The containers after a run of calls, whatever they are answered. -/
def registerEach (x : Indexed) : List (String × ProjectedType) → Indexed
  | [] => x
  | (name, type) :: calls => (x.register name type).2.registerEach calls

/-- The type under a name.  Whether its position is one of the row is not
checked. -/
def get? (x : Indexed) (name : String) : Option ProjectedType :=
  x.index[name]?.map fun position => x.types[position]!

/-- The fields that a struct has by its declaration. -/
def flatten (x : Indexed) (s : StructType) : Except SchemaError (List StructField) :=
  match s.parent with
  | none => .ok s.declaredFields
  | some parent =>
    match x.get? parent with
    | none => .error (.typeNotFound parent)
    | some type =>
      match type.struct? with
      | none => .error (.invalidParent s.qualifiedName parent)
      | some ancestor =>
        match ancestor.parent with
        | some grandparent =>
          .error (.multiLevelInheritance s.qualifiedName parent grandparent)
        | none => .ok (ancestor.declaredFields ++ s.declaredFields)

/-- The flattened fields of the structs with a parent in the rest of the row, each
with its position; the rest begins at the given one. -/
def flattenings (x : Indexed) :
    (position : Nat) → List ProjectedType → Except SchemaError (List (Nat × List StructField))
  | _, [] => .ok []
  | position, .struct s :: types =>
    if s.parent.isSome then
      match x.flatten s with
      | .error e => .error e
      | .ok fields => (x.flattenings (position + 1) types).map ((position, fields) :: ·)
    else x.flattenings (position + 1) types
  | position, _ :: types => x.flattenings (position + 1) types

/-- A struct with its fields replaced; any other type stays as it is. -/
def withFields (fields : List StructField) : ProjectedType → ProjectedType
  | .struct s => .struct { s with fields }
  | type => type

/-- Replaces the fields of the struct at a position. -/
def setFields (types : Array ProjectedType) (change : Nat × List StructField) :
    Array ProjectedType :=
  types.modify change.1 (withFields change.2)

/-- Ends registration.  All fields are computed on the row as it was registered,
and only then written into it. -/
def build (x : Indexed) : Except SchemaError Indexed :=
  (x.flattenings 0 x.types.toList).map fun changes =>
    { x with types := changes.foldl setFields x.types }

/-! ## One registry in two forms -/

variable {x : Indexed} {t : Table ProjectedType} {b : Builder} {r : Registry}

/-- Both containers together hold the entries of a table. -/
structure Represents (x : Indexed) (t : Table ProjectedType) : Prop where
  /-- The row holds the types, in order. -/
  types : x.types.toList = t.values
  /-- The index holds the position of every name. -/
  index (name : String) (position : Nat) :
    x.index[name]? = some position ↔ t.keys[position]? = some name

/-- The index is a one-to-one map from given names onto the positions of the
row. -/
structure IndexesOnto (x : Indexed) (names : List String) : Prop where
  /-- The given names have positions, and no others. -/
  domain (name : String) : (∃ position, x.index[name]? = some position) ↔ name ∈ names
  /-- What the index holds are the positions of the row, all of them. -/
  range (position : Nat) :
    (∃ name : String, x.index[name]? = some position) ↔ position < x.types.size
  /-- No two names share a position. -/
  injective (name name' : String) (position : Nat) :
    x.index[name]? = some position → x.index[name']? = some position → name = name'

theorem represents_empty : empty.Represents Builder.empty.types where
  types := rfl
  index name position := by simp [empty, Builder.empty, Table.keys]

theorem Represents.size_eq (h : x.Represents t) : x.types.size = t.keys.length := by
  rw [← Array.length_toList, h.types]
  simp only [Table.values, Table.keys, List.length_map]

theorem Represents.indexesOnto (h : x.Represents t) : x.IndexesOnto t.keys where
  domain name := by simp only [h.index, List.mem_iff_getElem?]
  range position := by
    simp only [h.index, h.size_eq]
    constructor
    · intro hex
      obtain ⟨name, hname⟩ := hex
      exact (List.getElem?_eq_some_iff.1 hname).1
    · intro hlt
      exact ⟨_, List.getElem?_eq_getElem hlt⟩
  injective name name' position hname hname' := by
    rw [h.index] at hname hname'
    exact Option.some.inj (hname.symm.trans hname')

theorem Represents.contains_iff (h : x.Represents t) {name : String} :
    x.index.contains name = true ↔ name ∈ t.keys := by
  rw [Std.HashMap.contains_eq_isSome_getElem?, Option.isSome_iff_exists, h.indexesOnto.domain]

/-! ## Registration -/

/-- A call is answered alike by both forms. -/
theorem Represents.answer_eq (h : x.Represents b.types) (name : String)
    (type : ProjectedType) :
    (x.register name type).1 = (b.register name type).map fun _ => () := by
  unfold register
  cases hb : b.register name type with
  | error e =>
    obtain ⟨htaken, rfl⟩ := Builder.register_eq_error_iff.1 hb
    rw [if_pos (h.contains_iff.2 htaken)]
    rfl
  | ok next =>
    have hnew := (Builder.register_eq_ok_iff.1 hb).1
    rw [if_neg (mt h.contains_iff.1 hnew)]
    rfl

theorem Represents.answer_eq_error_iff (h : x.Represents b.types) {name : String}
    {type : ProjectedType} {e : SchemaError} :
    (x.register name type).1 = .error e ↔ b.register name type = .error e := by
  rw [h.answer_eq]
  cases b.register name type <;> simp [Except.map]

/-- A refused call changes nothing. -/
theorem Represents.register_of_error (h : x.Represents b.types) {name : String}
    {type : ProjectedType} {e : SchemaError} (hb : b.register name type = .error e) :
    (x.register name type).2 = x := by
  unfold register
  rw [if_pos (h.contains_iff.2 (Builder.register_eq_error_iff.1 hb).1)]

/-- The position behind a list is that of what is put at its end. -/
theorem getElem?_concat_eq_some_iff {names : List String} {name other : String}
    {position : Nat} :
    (names ++ [name])[position]? = some other ↔
      names[position]? = some other ∨ (position = names.length ∧ name = other) := by
  rcases Nat.lt_trichotomy position names.length with hlt | rfl | hgt
  · rw [List.getElem?_append_left hlt]
    exact (or_iff_left fun hend => absurd hend.1 (Nat.ne_of_lt hlt)).symm
  · simp
  · rw [List.getElem?_eq_none (by simp; omega), List.getElem?_eq_none (by omega)]
    simp [Nat.ne_of_gt hgt]

/-- An accepted call puts the type at the end of the row. -/
theorem Represents.register_of_ok (h : x.Represents b.types) {next : Builder} {name : String}
    {type : ProjectedType} (hb : b.register name type = .ok next) :
    (x.register name type).2.Represents next.types := by
  obtain ⟨hnew, hentries⟩ := Builder.register_eq_ok_iff.1 hb
  unfold register
  rw [if_neg (mt h.contains_iff.1 hnew)]
  refine ⟨?_, fun other position => ?_⟩
  · rw [Array.toList_push, h.types, Table.values, Table.values, hentries, List.map_append]
    rfl
  · rw [Std.HashMap.getElem?_insert, Builder.keys_of_register hb, getElem?_concat_eq_some_iff,
      h.size_eq]
    by_cases hname : name = other
    · subst hname
      have hold : b.types.keys[position]? ≠ some name := fun hold =>
        hnew (List.mem_of_getElem? hold)
      simp [hold, eq_comm]
    · simp [hname, h.index]

/-- Both forms hold the same after any run of calls. -/
theorem Represents.registerEach (h : x.Represents b.types)
    (calls : List (String × ProjectedType)) :
    (x.registerEach calls).Represents (b.registerEach calls).types := by
  induction calls generalizing x b with
  | nil => exact h
  | cons call calls ih =>
    obtain ⟨name, type⟩ := call
    simp only [Indexed.registerEach, Builder.registerEach]
    cases hb : b.register name type with
    | error e =>
      rw [h.register_of_error hb]
      exact ih h
    | ok next => exact ih (h.register_of_ok hb)

/-! ## Look-ups -/

/-- No position is taken on trust in vain: a look-up gives what stands under the
name. -/
theorem Represents.get?_eq (h : x.Represents t) (name : String) : x.get? name = t.get? name := by
  unfold get?
  cases hposition : x.index[name]? with
  | none =>
    have hnew : name ∉ t.keys := by
      rw [← h.indexesOnto.domain, hposition]
      simp
    rw [Table.get?_eq_none_iff.2 hnew]
    rfl
  | some position =>
    have hkey := (h.index name position).1 hposition
    rw [Table.keys, List.getElem?_map] at hkey
    obtain ⟨⟨name', type⟩, hentry, rfl⟩ := Option.map_eq_some_iff.1 hkey
    have htype : x.types[position]? = some type := by
      rw [← Array.getElem?_toList, h.types, Table.values, List.getElem?_map, hentry]
      rfl
    rw [Table.get?_eq_some_iff.2 (List.mem_of_getElem? hentry), Option.map_some,
      getElem!_def, htype]

theorem Represents.flatten_eq (h : x.Represents r.types) (s : StructType) :
    x.flatten s = r.flatten s := by
  unfold flatten Registry.flatten Registry.resolve Registry.get?
  simp only [h.get?_eq]
  cases s.parent with
  | none => rfl
  | some parent =>
    dsimp only
    cases r.types.get? parent <;> rfl

/-! ## Building -/

/-- A change reaches the type at its position and no other. -/
theorem setFields_append (before types : List ProjectedType) (type : ProjectedType)
    (fields : List StructField) :
    setFields (before ++ type :: types).toArray (before.length, fields) =
      (before ++ withFields fields type :: types).toArray := by
  rw [← Array.toList_inj, setFields, Array.toList_modify]
  show List.modify (before ++ type :: types) before.length (withFields fields) = _
  rw [List.modify_eq_take_drop, List.take_left, List.drop_left, List.modifyHead_cons]

/-- Computing all changes first and then writing them at their positions gives
every type its inheritance, or the error of the first that has none. -/
theorem map_foldl_setFields (h : x.Represents r.types) (before types : List ProjectedType) :
    (x.flattenings before.length types).map (fun changes =>
        (changes.foldl setFields (before ++ types).toArray).toList) =
      (types.mapM r.inherit).map (before ++ ·) := by
  induction types generalizing before with
  | nil => rfl
  | cons type types ih =>
    -- what is in front of the rest of the row, when the rest is reached
    have hrest (type' : ProjectedType) :
        (x.flattenings (before.length + 1) types).map (fun changes =>
            (changes.foldl setFields (before ++ type' :: types).toArray).toList) =
          ((types.mapM r.inherit).map (type' :: ·)).map (before ++ ·) := by
      have happend := ih (before ++ [type'])
      simp only [List.length_append, List.length_singleton, List.append_assoc,
        List.singleton_append] at happend
      rw [happend]
      cases types.mapM r.inherit <;> rfl
    rw [mapM_cons_eq]
    cases type with
    | primitive | enumeration | interface => exact hrest _
    | struct s =>
      simp only [flattenings, Registry.inherit]
      cases s.parent.isSome with
      | false => exact hrest _
      | true =>
        simp only [if_true, h.flatten_eq]
        cases r.flatten s with
        | error e => rfl
        | ok fields =>
          refine Eq.trans ?_ (hrest (.struct { s with fields }))
          cases x.flattenings (before.length + 1) types with
          | error e => rfl
          | ok changes =>
            show Except.ok (((before.length, fields) :: changes).foldl setFields _).toList = _
            rw [List.foldl_cons, setFields_append]
            rfl

/-- Both forms end registration alike, with the same types in the same order. -/
theorem Represents.map_types_build (h : x.Represents b.types) :
    (x.build.map fun y => y.types.toList) = b.build.map fun r => r.types.values := by
  have hrow := map_foldl_setFields (r := ⟨b.types⟩) h [] x.types.toList
  have hleft : (x.build.map fun y => y.types.toList) =
      (x.flattenings 0 x.types.toList).map fun changes =>
        (changes.foldl setFields x.types).toList := by
    unfold build
    cases x.flattenings 0 x.types.toList <;> rfl
  have hright : (b.build.map fun r => r.types.values) =
      b.types.values.mapM (Registry.inherit ⟨b.types⟩) := by
    rw [← Table.map_values_traverse]
    unfold Builder.build
    cases b.types.traverse (Registry.inherit ⟨b.types⟩) <;> rfl
  rw [hleft, hright, ← h.types]
  rw [List.nil_append, Array.toArray_toList] at hrow
  refine hrow.trans ?_
  cases x.types.toList.mapM (Registry.inherit ⟨b.types⟩) <;> rfl

/-- If registration ends well in two containers, it does so in one, and the
containers still hold the entries. -/
theorem Represents.build_of_ok (h : x.Represents b.types) {y : Indexed}
    (hy : x.build = .ok y) : ∃ r, b.build = .ok r ∧ y.Represents r.types := by
  have htypes := h.map_types_build
  rw [hy] at htypes
  have hindex : y.index = x.index := by
    unfold build at hy
    cases hchanges : x.flattenings 0 x.types.toList with
    | error e => simp [hchanges, Except.map] at hy
    | ok changes =>
      rw [hchanges] at hy
      rw [← Except.ok.inj hy]
  cases hb : b.build with
  | error e => simp [hb, Except.map] at htypes
  | ok r =>
    rw [hb] at htypes
    refine ⟨r, rfl, Except.ok.inj htypes, ?_⟩
    rw [hindex, Builder.keys_of_build hb]
    exact h.index

/-! ## Runs -/

/-- After any run of calls the row holds the types of the accepted ones in order,
and the index is a one-to-one map from their names onto the positions of the row.
A further call is refused exactly if its name was accepted before, as a duplicate,
and then changes nothing; the registry that keeps names and types together
answers alike.  If registration then ends well, the index still holds positions of
the row only, a look-up gives the type of the first call with the name, with its
inheritance resolved, and no other name stands for a type; all types, the structs
and the structs to be emitted are listed in the order of the accepted calls. -/
theorem registerEach_verdict (calls : List (String × ProjectedType)) :
    let x := Indexed.empty.registerEach calls
    let b := Builder.empty.registerEach calls
    let accepted := Builder.empty.accepted calls
    (x.types.toList = accepted.map Prod.snd ∧ x.IndexesOnto (accepted.map Prod.fst)) ∧
    (∀ name type,
      ((∃ e, (x.register name type).1 = .error e) ↔ name ∈ accepted.map Prod.fst) ∧
      (∀ e, (x.register name type).1 = .error e →
        e = .duplicateType name ∧ (x.register name type).2 = x) ∧
      (x.register name type).1 = (b.register name type).map fun _ => ()) ∧
    ∀ y, x.build = .ok y → ∃ r, b.build = .ok r ∧ y.types.toList = r.types.values ∧
      y.IndexesOnto (accepted.map Prod.fst) ∧
      (∀ name, y.get? name = r.get? name) ∧
      (∀ name type', r.get? name = some type' ↔
        ∃ type, IsFirst (fun call => call.1 = name) calls (name, type) ∧
          (Registry.mk b.types).Inherits type type') ∧
      (∀ name, r.get? name = none ↔ name ∉ calls.map Prod.fst) ∧
      List.Forall₂ (Registry.mk b.types).Inherits (accepted.map Prod.snd) r.types.values ∧
      List.Forall₂ (fun s s' => (Registry.mk b.types).Inherits (.struct s) (.struct s'))
        ((accepted.map Prod.snd).filterMap ProjectedType.struct?) r.structs ∧
      List.Forall₂ (fun s s' => (Registry.mk b.types).Inherits (.struct s) (.struct s'))
        (((accepted.map Prod.snd).filterMap ProjectedType.struct?).filter (·.included))
        r.worklist := by
  intro x b accepted
  have hx : x.Represents b.types := represents_empty.registerEach calls
  have hentries : b.types.entries = accepted := Builder.entries_registerEach _ calls
  have hkeys : b.types.keys = accepted.map Prod.fst := congrArg _ hentries
  have hvalues : b.types.values = accepted.map Prod.snd := congrArg _ hentries
  refine ⟨⟨hvalues ▸ hx.types, hkeys ▸ hx.indexesOnto⟩, fun name type => ?_, fun y hy => ?_⟩
  · refine ⟨?_, fun e he => ?_, hx.answer_eq name type⟩
    · simp only [hx.answer_eq_error_iff, Builder.register_eq_error_iff, hkeys,
        exists_and_left, exists_eq, and_true]
    · rw [hx.answer_eq_error_iff] at he
      exact ⟨(Builder.register_eq_error_iff.1 he).2, hx.register_of_error he⟩
  · obtain ⟨r, hr, hyr⟩ := hx.build_of_ok hy
    have hrkeys : r.types.keys = accepted.map Prod.fst :=
      (Builder.keys_of_build hr).trans hkeys
    have htypes := Builder.forall₂_values_of_build hr
    have hstructs := Builder.forall₂_structs_of_build hr
    rw [hvalues] at htypes
    rw [structs, hvalues] at hstructs
    refine ⟨r, hr, hyr.types, hrkeys ▸ hyr.indexesOnto, hyr.get?_eq, fun name type' => ?_,
      fun name => ?_, htypes, hstructs, forall₂_included_of_inherits hstructs⟩
    · rw [Builder.get?_of_build hr]
      simp only [Table.get?_eq_some_iff, hentries, accepted, Builder.mem_accepted_iff]
      simp [Builder.empty, Table.keys]
    · rw [Registry.get?, Table.get?_eq_none_iff, Builder.keys_of_build hr,
        Builder.mem_keys_registerEach_iff]
      simp [Builder.empty, Table.keys]

end Indexed

end TypeProjection.Registry
