/-
  Proofs/Registry/Building.lean --- what ending registration does to the types.

  Building goes through the types in the order of registration.  A struct with a
  parent gets the fields declared by its parent in front of its own, looked up
  among the types as they were registered; all else stays as it is.  The first
  struct whose parent cannot be used ends the building.
-/
import TypeProjection.Registry.Basic
import TypeProjection.Proofs.Table

set_option autoImplicit false

namespace TypeProjection

/-! ## Parents -/

namespace Registry

variable {r : Registry} {s : StructType}

/-- A struct without a parent, or with one that may have children: a registered
struct that has no parent itself. -/
def HasUsableParent (r : Registry) (s : StructType) : Prop :=
  ∀ parent, s.parent = some parent →
    ∃ ancestor, r.get? parent = some (.struct ancestor) ∧ ancestor.parent = none

/-- Why the parent of a struct cannot be used. -/
inductive ParentFault (r : Registry) (s : StructType) : SchemaError → Prop where
  /-- the parent is not registered -/
  | unknown {parent : String} (h : s.parent = some parent) (hget : r.get? parent = none) :
    ParentFault r s (.typeNotFound parent)
  /-- the parent is no struct -/
  | noStruct {parent : String} {type : ProjectedType} (h : s.parent = some parent)
    (hget : r.get? parent = some type) (htype : type.struct? = none) :
    ParentFault r s (.invalidParent s.qualifiedName parent)
  /-- the parent has a parent -/
  | grandparent {parent grandparent : String} {ancestor : StructType}
    (h : s.parent = some parent) (hget : r.get? parent = some (.struct ancestor))
    (hancestor : ancestor.parent = some grandparent) :
    ParentFault r s (.multiLevelInheritance s.qualifiedName parent grandparent)

/-- What becomes of a type when registration ends. -/
inductive Inherits (r : Registry) : ProjectedType → ProjectedType → Prop where
  /-- a struct with a parent gets the fields declared by its parent in front -/
  | child {s ancestor : StructType} {parent : String} (h : s.parent = some parent)
    (hget : r.get? parent = some (.struct ancestor)) (hancestor : ancestor.parent = none) :
    Inherits r (.struct s)
      (.struct { s with fields := ancestor.declaredFields ++ s.declaredFields })
  /-- a struct without a parent stays as it is -/
  | root {s : StructType} (h : s.parent = none) : Inherits r (.struct s) (.struct s)
  /-- any other type stays as it is -/
  | other {type : ProjectedType} (h : type.struct? = none) : Inherits r type type

theorem inherit_of_inherits {type type' : ProjectedType} (h : r.Inherits type type') :
    r.inherit type = .ok type' := by
  cases h with
  | child h hget hancestor =>
    simp only [inherit, h, Option.isSome_some, if_true, flatten, resolve, hget,
      ProjectedType.struct?, hancestor, Except.map]
  | root h => simp only [inherit, h, Option.isSome_none, Bool.false_eq_true, if_false]
  | other h => cases type <;> first | rfl | simp [ProjectedType.struct?] at h

theorem inherit_of_parentFault {e : SchemaError} (h : r.ParentFault s e) :
    r.inherit (.struct s) = .error e := by
  rcases h with ⟨h, hget⟩ | ⟨h, hget, htype⟩ | ⟨h, hget, hancestor⟩
  · simp only [inherit, h, Option.isSome_some, if_true, flatten, resolve, hget, Except.map]
  · simp only [inherit, h, Option.isSome_some, if_true, flatten, resolve, hget, htype,
      Except.map]
  · simp only [inherit, h, Option.isSome_some, if_true, flatten, resolve, hget,
      ProjectedType.struct?, hancestor, Except.map]

/-- There is no third case. -/
theorem inherits_or_parentFault (r : Registry) (type : ProjectedType) :
    (∃ type', r.Inherits type type') ∨ ∃ s e, type = .struct s ∧ r.ParentFault s e := by
  cases htype : type.struct? with
  | none => exact Or.inl ⟨type, .other htype⟩
  | some s =>
    obtain rfl : type = .struct s := by
      cases type <;> simp_all [ProjectedType.struct?]
    cases hparent : s.parent with
    | none => exact Or.inl ⟨_, .root hparent⟩
    | some parent =>
      cases hget : r.get? parent with
      | none => exact Or.inr ⟨s, _, rfl, .unknown hparent hget⟩
      | some type =>
        cases htype' : type.struct? with
        | none => exact Or.inr ⟨s, _, rfl, .noStruct hparent hget htype'⟩
        | some ancestor =>
          obtain rfl : type = .struct ancestor := by
            cases type <;> simp_all [ProjectedType.struct?]
          cases hancestor : ancestor.parent with
          | none => exact Or.inl ⟨_, .child hparent hget hancestor⟩
          | some grandparent => exact Or.inr ⟨s, _, rfl, .grandparent hparent hget hancestor⟩

theorem inherit_eq_ok_iff {type type' : ProjectedType} :
    r.inherit type = .ok type' ↔ r.Inherits type type' := by
  refine ⟨fun h => ?_, inherit_of_inherits⟩
  rcases inherits_or_parentFault r type with ⟨type'', h''⟩ | ⟨s, e, rfl, hfault⟩
  · exact Except.ok.inj ((inherit_of_inherits h'').symm.trans h) ▸ h''
  · simp [inherit_of_parentFault hfault] at h

theorem inherit_eq_error_iff {type : ProjectedType} {e : SchemaError} :
    r.inherit type = .error e ↔ ∃ s, type = .struct s ∧ r.ParentFault s e := by
  constructor
  · intro h
    rcases inherits_or_parentFault r type with ⟨type', h'⟩ | ⟨s, e', rfl, hfault⟩
    · simp [inherit_of_inherits h'] at h
    · exact ⟨s, rfl, Except.error.inj ((inherit_of_parentFault hfault).symm.trans h) ▸ hfault⟩
  · intro hex
    obtain ⟨s, rfl, hfault⟩ := hex
    exact inherit_of_parentFault hfault

/-- A type can be finished if it is no struct or its parent can be used. -/
theorem exists_inherits_iff {type : ProjectedType} :
    (∃ type', r.Inherits type type') ↔ ∀ s, type = .struct s → r.HasUsableParent s := by
  constructor
  · rintro ⟨type', h⟩ s rfl parent hparent
    cases h with
    | child h hget hancestor =>
      obtain rfl := Option.some.inj (hparent.symm.trans h)
      exact ⟨_, hget, hancestor⟩
    | root h => simp [hparent] at h
    | other h => simp [ProjectedType.struct?] at h
  · intro h
    rcases inherits_or_parentFault r type with hok | ⟨s, e, rfl, hfault⟩
    · exact hok
    · exfalso
      rcases hfault with ⟨hp, hget⟩ | ⟨hp, hget, htype⟩ | ⟨hp, hget, hancestor⟩
      · obtain ⟨ancestor, hget', -⟩ := h s rfl _ hp
        simp [hget] at hget'
      · obtain ⟨ancestor, hget', -⟩ := h s rfl _ hp
        obtain rfl := Option.some.inj (hget.symm.trans hget')
        simp [ProjectedType.struct?] at htype
      · obtain ⟨ancestor, hget', hancestor'⟩ := h s rfl _ hp
        obtain rfl := ProjectedType.struct.inj (Option.some.inj (hget.symm.trans hget'))
        simp [hancestor] at hancestor'

theorem mem_structs_iff : s ∈ r.structs ↔ ∃ key, (key, .struct s) ∈ r.types.entries := by
  unfold structs Table.values
  simp only [List.mem_filterMap, List.mem_map]
  constructor
  · intro hex
    obtain ⟨type, ⟨⟨key, type'⟩, hmem, rfl⟩, htype⟩ := hex
    cases type' with
    | struct content =>
      obtain rfl : content = s := Option.some.inj htype
      exact ⟨key, hmem⟩
    | primitive | enumeration | interface => simp [ProjectedType.struct?] at htype
  · intro hex
    obtain ⟨key, hmem⟩ := hex
    exact ⟨.struct s, ⟨(key, .struct s), hmem, rfl⟩, rfl⟩

/-! ## Building -/

namespace Builder

variable {b : Builder}

/-- The finished registry has the registered types in order, each under its key
and with its inheritance resolved among the registered ones. -/
theorem build_eq_ok_iff :
    b.build = .ok r ↔
      List.Forall₂ (fun e e' => e'.1 = e.1 ∧ (Registry.mk b.types).Inherits e.2 e'.2)
        b.types.entries r.types.entries := by
  obtain ⟨types⟩ := r
  simp only [← inherit_eq_ok_iff, ← Table.traverse_eq_ok_iff]
  unfold build
  cases b.types.traverse (inherit ⟨b.types⟩) <;> simp [Except.map]

/-- Building fails at the first struct whose parent cannot be used. -/
theorem build_eq_error_iff {e : SchemaError} :
    b.build = .error e ↔
      ∃ entry, IsFirst (fun entry => ¬ ∀ s, entry.2 = .struct s →
          (Registry.mk b.types).HasUsableParent s) b.types.entries entry ∧
        ∃ s, entry.2 = .struct s ∧ (Registry.mk b.types).ParentFault s e := by
  have herror : b.build = .error e ↔ b.types.traverse (inherit ⟨b.types⟩) = .error e := by
    unfold build
    cases b.types.traverse (inherit ⟨b.types⟩) <;> simp [Except.map]
  rw [herror, Table.traverse_eq_error_iff]
  simp only [inherit_eq_error_iff, ne_eq, inherit_eq_ok_iff, ← exists_inherits_iff, not_exists]

theorem exists_build_iff :
    (∃ r, b.build = .ok r) ↔
      ∀ entry ∈ b.types.entries, ∀ s, entry.2 = .struct s →
        (Registry.mk b.types).HasUsableParent s := by
  constructor
  · rintro ⟨r, h⟩ entry hentry
    obtain ⟨entry', -, -, hinherits⟩ := exists_of_mem_of_forall₂ (build_eq_ok_iff.1 h) hentry
    exact exists_inherits_iff.1 ⟨entry'.2, hinherits⟩
  · intro h
    cases hbuild : b.build with
    | ok r => exact ⟨r, rfl⟩
    | error e =>
      obtain ⟨entry, hfirst, -⟩ := build_eq_error_iff.1 hbuild
      exact absurd (h entry hfirst.mem) hfirst.holds

theorem keys_of_build (h : b.build = .ok r) : r.types.keys = b.types.keys := by
  have hkeys := (build_eq_ok_iff.1 h).imp fun _ _ hinherits => hinherits.1.symm
  have hmap : List.Forall₂ (· = ·) (b.types.entries.map Prod.fst) (r.types.entries.map Prod.fst) := by
    rw [List.forall₂_map_left_iff, List.forall₂_map_right_iff]
    exact hkeys
  exact (List.forall₂_eq_eq_eq ▸ hmap : b.types.keys = r.types.keys).symm

/-- A look-up in the finished registry gives the type that was registered under
the name, with its inheritance resolved. -/
theorem get?_of_build (h : b.build = .ok r) {name : String} {type' : ProjectedType} :
    r.get? name = some type' ↔
      ∃ type, b.types.get? name = some type ∧ (Registry.mk b.types).Inherits type type' := by
  have hall := build_eq_ok_iff.1 h
  simp only [get?, Table.get?_eq_some_iff]
  constructor
  · intro hmem
    obtain ⟨⟨key, type⟩, hentry, rfl, hinherits⟩ := exists_of_mem_of_forall₂ hall.flip hmem
    exact ⟨type, hentry, hinherits⟩
  · intro hex
    obtain ⟨type, hentry, hinherits⟩ := hex
    obtain ⟨⟨key', type''⟩, hmem, rfl, hinherits'⟩ := exists_of_mem_of_forall₂ hall hentry
    obtain rfl : type'' = type' := Except.ok.inj
      ((inherit_of_inherits hinherits').symm.trans (inherit_of_inherits hinherits))
    exact hmem

/-- A finished struct with a parent has the fields that its parent declares in
front of its own. -/
theorem fields_of_build (h : b.build = .ok r) (hs : s ∈ r.structs) {parent : String}
    (hparent : s.parent = some parent) :
    ∃ ancestor, r.get? parent = some (.struct ancestor) ∧
      s.fields = ancestor.declaredFields ++ s.declaredFields := by
  obtain ⟨key, hmem⟩ := mem_structs_iff.1 hs
  obtain ⟨⟨key', type⟩, -, -, hinherits⟩ :=
    exists_of_mem_of_forall₂ (build_eq_ok_iff.1 h).flip hmem
  generalize heq : ProjectedType.struct s = type' at hinherits
  cases hinherits with
  | @child s' ancestor parent' hparent' hget hancestor =>
    obtain rfl := ProjectedType.struct.inj heq
    obtain rfl : parent' = parent := Option.some.inj (hparent'.symm.trans hparent)
    exact ⟨ancestor, (get?_of_build h).2 ⟨_, hget, .root hancestor⟩, rfl⟩
  | root hroot =>
    obtain rfl := ProjectedType.struct.inj heq
    simp [hroot] at hparent
  | other hother =>
    subst heq
    simp [ProjectedType.struct?] at hother

end Builder

/-! ## Lists of structs -/

/-- The structs among types are finished in their order. -/
theorem forall₂_struct?_of_inherits {types types' : List ProjectedType}
    (h : List.Forall₂ r.Inherits types types') :
    List.Forall₂ (fun s s' => r.Inherits (.struct s) (.struct s'))
      (types.filterMap ProjectedType.struct?) (types'.filterMap ProjectedType.struct?) := by
  induction h with
  | nil => exact .nil
  | @cons type type' types types' htype _ ih =>
    cases htype with
    | child hparent hget hancestor => exact .cons (.child hparent hget hancestor) ih
    | root hparent => exact .cons (.root hparent) ih
    | other hother => simpa only [List.filterMap_cons, hother] using ih

/-- The finished types are the registered ones, each with its inheritance resolved,
in their order. -/
theorem Builder.forall₂_values_of_build {b : Builder} (h : b.build = .ok r) :
    List.Forall₂ (Registry.mk b.types).Inherits b.types.values r.types.values := by
  rw [Table.values, Table.values, List.forall₂_map_left_iff, List.forall₂_map_right_iff]
  exact (Builder.build_eq_ok_iff.1 h).imp fun _ _ hentry => hentry.2

/-- So are the finished structs. -/
theorem Builder.forall₂_structs_of_build {b : Builder} (h : b.build = .ok r) :
    List.Forall₂ (fun s s' => (Registry.mk b.types).Inherits (.struct s) (.struct s'))
      (Registry.mk b.types).structs r.structs :=
  forall₂_struct?_of_inherits (Builder.forall₂_values_of_build h)

theorem Inherits.included_eq {s s' : StructType} (h : r.Inherits (.struct s) (.struct s')) :
    s'.included = s.included := by
  cases h <;> rfl

/-- Whether a struct is to be emitted does not change when it is finished. -/
theorem forall₂_included_of_inherits {structs structs' : List StructType}
    (h : List.Forall₂ (fun s s' => r.Inherits (.struct s) (.struct s')) structs structs') :
    List.Forall₂ (fun s s' => r.Inherits (.struct s) (.struct s'))
      (structs.filter (·.included)) (structs'.filter (·.included)) := by
  induction h with
  | nil => exact .nil
  | @cons s s' structs structs' hs _ ih =>
    simp only [List.filter_cons, hs.included_eq]
    cases s.included with
    | true => exact .cons hs ih
    | false => exact ih

end Registry

end TypeProjection
