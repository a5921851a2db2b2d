/-
  Table.lean --- values under distinct keys, in the order they were added.

  Nothing is ever replaced or removed: a key that is taken is refused.  The
  main statements say what each operation does to `get?` and to the list of
  entries.
-/

set_option autoImplicit false

namespace TypeProjection

/-- Values under distinct keys, in the order they were added. -/
structure Table (α : Type) where
  /-- The keys with their values, in the order they were added. -/
  entries : List (String × α)
  /-- No key is used twice. -/
  keys_nodup : (entries.map Prod.fst).Nodup
  deriving DecidableEq, Repr

namespace Table

variable {α β : Type}

/-- The table without entries. -/
def empty : Table α :=
  ⟨[], List.nodup_nil⟩

instance : Inhabited (Table α) := ⟨empty⟩

/-- The keys, in the order they were added. -/
def keys (t : Table α) : List String :=
  t.entries.map Prod.fst

/-- The values, in the order they were added. -/
def values (t : Table α) : List α :=
  t.entries.map Prod.snd

/-- The number of entries. -/
def size (t : Table α) : Nat :=
  t.entries.length

/-- Whether there are no entries. -/
def isEmpty (t : Table α) : Bool :=
  t.entries.isEmpty

/-- The value under a key. -/
def get? (t : Table α) (key : String) : Option α :=
  t.entries.lookup key

/-- Whether a key is taken. -/
def contains (t : Table α) (key : String) : Bool :=
  t.keys.contains key

/-- Adds a value under a key, unless the key is taken. -/
def insert? (t : Table α) (key : String) (value : α) : Option (Table α) :=
  if h : key ∈ t.keys then none
  else some ⟨t.entries ++ [(key, value)], by
    rw [List.map_append, List.nodup_append]
    refine ⟨t.keys_nodup, by simp, ?_⟩
    rintro k hk k' hk' rfl
    obtain rfl : k = key := by simpa using hk'
    exact h hk⟩

/-- The table with every value replaced by its image. -/
def map (f : α → β) (t : Table α) : Table β :=
  ⟨t.entries.map fun (key, value) => (key, f value), by
    have h : (t.entries.map fun (key, value) => (key, f value)).map Prod.fst =
        t.entries.map Prod.fst := by
      simp [List.map_map, Function.comp_def]
    rw [h]
    exact t.keys_nodup⟩

/-- The entries with every value replaced by its image, or the error of the
first value that has none. -/
def traverseEntries {ε : Type} (f : α → Except ε β) :
    List (String × α) → Except ε (List (String × β))
  | [] => .ok []
  | (key, value) :: es =>
    match f value with
    | .error e => .error e
    | .ok value' => (traverseEntries f es).map ((key, value') :: ·)

theorem keys_of_traverseEntries {ε : Type} {f : α → Except ε β} {es : List (String × α)}
    {es' : List (String × β)} (h : traverseEntries f es = .ok es') :
    es'.map Prod.fst = es.map Prod.fst := by
  induction es generalizing es' with
  | nil =>
    obtain rfl : [] = es' := by simpa [traverseEntries] using h
    rfl
  | cons e es ih =>
    obtain ⟨key, value⟩ := e
    simp only [traverseEntries] at h
    split at h
    · simp at h
    · rename_i value' _
      cases hes : traverseEntries f es with
      | error e => simp [hes, Except.map] at h
      | ok rest =>
        obtain rfl : (key, value') :: rest = es' := by simpa [hes, Except.map] using h
        simp [ih hes]

set_option linter.unusedVariables false in
/-- The table with every value replaced by its image, or the error of the first
value that has none. -/
def traverse {ε : Type} (f : α → Except ε β) (t : Table α) : Except ε (Table β) :=
  match h : traverseEntries f t.entries with
  | .error e => .error e
  | .ok entries => .ok ⟨entries, by
    rw [keys_of_traverseEntries h]
    exact t.keys_nodup⟩

/-! ## Entries and look-ups -/

@[simp] theorem entries_empty : (empty : Table α).entries = [] := rfl

@[simp] theorem get?_empty (key : String) : (empty : Table α).get? key = none := rfl

theorem contains_iff {t : Table α} {key : String} : t.contains key = true ↔ key ∈ t.keys := by
  simp [contains]

theorem insert?_eq_none_iff {t : Table α} {key : String} {value : α} :
    t.insert? key value = none ↔ key ∈ t.keys := by
  unfold insert?
  split <;> simp_all

theorem entries_insert? {t t' : Table α} {key : String} {value : α}
    (h : t.insert? key value = some t') : t'.entries = t.entries ++ [(key, value)] := by
  unfold insert? at h
  split at h
  · simp at h
  · rw [← Option.some.inj h]

@[simp] theorem keys_map (f : α → β) (t : Table α) : (t.map f).keys = t.keys := by
  simp [keys, map, List.map_map, Function.comp_def]

@[simp] theorem values_map (f : α → β) (t : Table α) : (t.map f).values = t.values.map f := by
  simp [values, map, List.map_map, Function.comp_def]

theorem get?_eq_none_iff {t : Table α} {key : String} : t.get? key = none ↔ key ∉ t.keys := by
  simp only [get?, keys, List.lookup_eq_none_iff, List.mem_map, not_exists, not_and, bne_iff_ne]
  exact ⟨fun h e he hk => h e he hk.symm, fun h e he hk => h e he hk.symm⟩

theorem entries_traverse {ε : Type} {f : α → Except ε β} {t : Table α} {t' : Table β}
    (h : t.traverse f = .ok t') : traverseEntries f t.entries = .ok t'.entries := by
  unfold traverse at h
  split at h
  · simp at h
  · rename_i entries heq
    rw [heq, ← Except.ok.inj h]

end Table

end TypeProjection
