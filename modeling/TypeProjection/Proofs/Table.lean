/-
  Proofs/Table.lean --- what is in a table.

  A table is determined by its entries: adding puts an entry at the end, looking up
  finds an entry, and a traversal goes through the entries in order.
-/
import TypeProjection.Table
import TypeProjection.Proofs.Traversal

set_option autoImplicit false

namespace TypeProjection.Table

variable {α β ε : Type}

/-! ## Entries -/

theorem ext {t t' : Table α} (h : t.entries = t'.entries) : t = t' := by
  obtain ⟨entries, _⟩ := t
  obtain ⟨entries', _⟩ := t'
  obtain rfl : entries = entries' := h
  rfl

/-- A value can be added under a key that is not taken, and stands behind all
others then. -/
theorem exists_insert?_of_notMem {t : Table α} {key : String} (h : key ∉ t.keys) (value : α) :
    ∃ t', t.insert? key value = some t' ∧ t'.entries = t.entries ++ [(key, value)] := by
  obtain ⟨t', ht'⟩ := Option.ne_none_iff_exists'.1 (insert?_eq_none_iff.not.2 h)
  exact ⟨t', ht', entries_insert? ht'⟩

theorem insert?_eq_some_iff {t t' : Table α} {key : String} {value : α} :
    t.insert? key value = some t' ↔
      key ∉ t.keys ∧ t'.entries = t.entries ++ [(key, value)] := by
  constructor
  · intro h
    have hsome : t.insert? key value ≠ none := by simp [h]
    exact ⟨insert?_eq_none_iff.not.1 hsome, entries_insert? h⟩
  · rintro ⟨hnew, hentries⟩
    obtain ⟨t'', h, hentries'⟩ := exists_insert?_of_notMem hnew value
    rw [h, ext (hentries'.trans hentries.symm)]

/-! ## Look-ups -/

/-- The value under a key is the one it was added with. -/
theorem get?_eq_some_iff {t : Table α} {key : String} {value : α} :
    t.get? key = some value ↔ (key, value) ∈ t.entries := by
  obtain ⟨entries, hnodup⟩ := t
  show entries.lookup key = some value ↔ (key, value) ∈ entries
  induction entries with
  | nil => simp
  | cons entry entries ih =>
    obtain ⟨k, v⟩ := entry
    rw [List.map_cons, List.nodup_cons] at hnodup
    rw [List.lookup_cons, List.mem_cons, Prod.mk.injEq]
    by_cases hk : key = k
    · subst hk
      have hother : (key, value) ∉ entries := fun hmem =>
        hnodup.1 (List.mem_map.2 ⟨_, hmem, rfl⟩)
      simp [hother, eq_comm]
    · simp only [hk, false_and, false_or, beq_eq_false_iff_ne.2 hk, ih hnodup.2]

theorem get?_isSome_iff {t : Table α} {key : String} :
    (t.get? key).isSome = true ↔ key ∈ t.keys := by
  rw [← not_iff_not, Option.not_isSome_iff_eq_none, get?_eq_none_iff]

/-! ## Traversals -/

theorem traverseEntries_eq_mapM (f : α → Except ε β) (entries : List (String × α)) :
    traverseEntries f entries = entries.mapM fun entry => (f entry.2).map (entry.1, ·) := by
  induction entries with
  | nil => rfl
  | cons entry entries ih =>
    obtain ⟨key, value⟩ := entry
    rw [mapM_cons_eq, traverseEntries, ih]
    cases f value <;> rfl

theorem traverse_eq_ok_iff {f : α → Except ε β} {t : Table α} {t' : Table β} :
    t.traverse f = .ok t' ↔
      List.Forall₂ (fun e e' => e'.1 = e.1 ∧ f e.2 = .ok e'.2) t.entries t'.entries := by
  have hone : ∀ (e : String × α) (e' : String × β),
      (f e.2).map (e.1, ·) = .ok e' ↔ e'.1 = e.1 ∧ f e.2 = .ok e'.2 := by
    rintro ⟨key, value⟩ ⟨key', value'⟩
    cases f value <;> simp [Except.map, Prod.mk.injEq, eq_comm]
  simp only [← hone, ← mapM_eq_ok_iff]
  rw [← traverseEntries_eq_mapM]
  constructor
  · exact entries_traverse
  · intro h
    unfold traverse
    split
    · rename_i e heq
      simp [h] at heq
    · rename_i entries heq
      obtain rfl : t'.entries = entries := Except.ok.inj (h.symm.trans heq)
      rfl

theorem traverse_eq_error_iff {f : α → Except ε β} {t : Table α} {e : ε} :
    t.traverse f = .error e ↔
      ∃ entry, IsFirst (fun entry => ∀ value, f entry.2 ≠ .ok value) t.entries entry ∧
        f entry.2 = .error e := by
  have hnone : ∀ entry : String × α, (∀ e', (f entry.2).map (entry.1, ·) ≠ .ok e') ↔
      ∀ value, f entry.2 ≠ .ok value := by
    intro entry
    cases f entry.2 <;> simp [Except.map]
  have hone : ∀ entry : String × α, (f entry.2).map (entry.1, ·) = .error e ↔
      f entry.2 = .error e := by
    intro entry
    cases f entry.2 <;> simp [Except.map]
  have hentries : t.traverse f = .error e ↔ traverseEntries f t.entries = .error e := by
    unfold traverse
    split
    · rename_i e' heq
      simp [heq]
    · rename_i entries heq
      simp [heq]
  rw [hentries, traverseEntries_eq_mapM, mapM_eq_error_iff]
  simp only [hnone, hone]

/-- The values of a table are traversed in their order. -/
theorem map_values_traverse (f : α → Except ε β) (t : Table α) :
    (t.traverse f).map Table.values = t.values.mapM f := by
  symm
  cases h : t.traverse f with
  | ok t' =>
    have hall := traverse_eq_ok_iff.1 h
    refine mapM_eq_ok_iff.2 ?_
    rw [values, values, List.forall₂_map_left_iff, List.forall₂_map_right_iff]
    exact hall.imp fun _ _ hentry => hentry.2
  | error e =>
    obtain ⟨entry, hfirst, hentry⟩ := traverse_eq_error_iff.1 h
    exact mapM_eq_error_iff.2 ⟨entry.2, isFirst_map_iff.2 ⟨entry, hfirst, rfl⟩, hentry⟩

end TypeProjection.Table
