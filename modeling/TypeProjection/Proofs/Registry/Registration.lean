/-
  Proofs/Registry/Registration.lean --- runs of registrations.

  A caller registers types one by one and may go on after a call that was
  refused.  What is registered in the end are the accepted calls, in order, and
  a call is accepted exactly if no call in front of it has its name.
-/
import TypeProjection.Registry.Basic
import TypeProjection.Proofs.Table

set_option autoImplicit false

namespace TypeProjection.Registry.Builder

variable {b b' : Builder} {key : String} {type : ProjectedType}

/-! ## Single calls -/

theorem register_eq_ok_iff :
    b.register key type = .ok b' ↔
      key ∉ b.types.keys ∧ b'.types.entries = b.types.entries ++ [(key, type)] := by
  obtain ⟨types'⟩ := b'
  rw [← Table.insert?_eq_some_iff, register]
  cases b.types.insert? key type <;> simp

theorem register_eq_error_iff {e : SchemaError} :
    b.register key type = .error e ↔ key ∈ b.types.keys ∧ e = .duplicateType key := by
  unfold register
  cases h : b.types.insert? key type with
  | none => simp [Table.insert?_eq_none_iff.1 h, eq_comm]
  | some types =>
    have hsome : b.types.insert? key type ≠ none := by simp [h]
    have hnew : key ∉ b.types.keys := Table.insert?_eq_none_iff.not.1 hsome
    simp [hnew]

/-- A call that is accepted adds its name behind all others. -/
theorem keys_of_register (h : b.register key type = .ok b') :
    b'.types.keys = b.types.keys ++ [key] := by
  unfold Table.keys
  rw [(register_eq_ok_iff.1 h).2, List.map_append]
  rfl

theorem mem_keys_of_register (h : b.register key type = .ok b') {other : String} :
    other ∈ b'.types.keys ↔ other ∈ b.types.keys ∨ other = key := by
  rw [keys_of_register h, List.mem_append, List.mem_singleton]

/-! ## Runs -/

/-- What is registered after a run of calls; a refused call leaves what was
there. -/
def registerEach (b : Builder) : List (String × ProjectedType) → Builder
  | [] => b
  | (key, type) :: calls =>
    match b.register key type with
    | .ok next => next.registerEach calls
    | .error _ => b.registerEach calls

/-- The calls of a run that are accepted, in order. -/
def accepted (b : Builder) : List (String × ProjectedType) → List (String × ProjectedType)
  | [] => []
  | (key, type) :: calls =>
    match b.register key type with
    | .ok next => (key, type) :: next.accepted calls
    | .error _ => b.accepted calls

/-- A run adds the accepted calls, in order, and nothing else. -/
theorem entries_registerEach (b : Builder) (calls : List (String × ProjectedType)) :
    (b.registerEach calls).types.entries = b.types.entries ++ b.accepted calls := by
  induction calls generalizing b with
  | nil => simp [registerEach, accepted]
  | cons call calls ih =>
    obtain ⟨key, type⟩ := call
    simp only [registerEach, accepted]
    cases h : b.register key type with
    | error e => exact ih b
    | ok next =>
      dsimp only
      rw [ih next, (register_eq_ok_iff.1 h).2, List.append_assoc]
      rfl

/-- Accepted is the first call with a name, unless the name was taken before the
run. -/
theorem mem_accepted_iff {calls : List (String × ProjectedType)} :
    (key, type) ∈ b.accepted calls ↔
      key ∉ b.types.keys ∧ IsFirst (fun call => call.1 = key) calls (key, type) := by
  induction calls generalizing b with
  | nil => simp [accepted, not_isFirst_nil]
  | cons call calls ih =>
    obtain ⟨key', type'⟩ := call
    simp only [accepted, isFirst_cons_iff]
    cases h : b.register key' type' with
    | error e =>
      -- the call repeats a name, so it is the first only of a name that is taken
      have htaken := (register_eq_error_iff.1 h).1
      have hne : key ∉ b.types.keys → key' ≠ key := fun hnew heq => hnew (heq ▸ htaken)
      rw [ih]
      constructor
      · rintro ⟨hnew, hfirst⟩
        exact ⟨hnew, .inr ⟨hne hnew, hfirst⟩⟩
      · rintro ⟨hnew, ⟨heq, -⟩ | ⟨-, hfirst⟩⟩
        · exact absurd heq (hne hnew)
        · exact ⟨hnew, hfirst⟩
    | ok next =>
      have hnew' := (register_eq_ok_iff.1 h).1
      simp only [List.mem_cons, ih, mem_keys_of_register h, not_or, Prod.mk.injEq]
      constructor
      · rintro (⟨rfl, rfl⟩ | ⟨⟨hnew, hne⟩, hfirst⟩)
        · exact ⟨hnew', .inl ⟨rfl, rfl, rfl⟩⟩
        · exact ⟨hnew, .inr ⟨Ne.symm hne, hfirst⟩⟩
      · rintro ⟨hnew, ⟨-, rfl, rfl⟩ | ⟨hne, hfirst⟩⟩
        · exact .inl ⟨rfl, rfl⟩
        · exact .inr ⟨⟨hnew, Ne.symm hne⟩, hfirst⟩

/-- The names after a run are those of all its calls. -/
theorem mem_keys_registerEach_iff {calls : List (String × ProjectedType)} :
    key ∈ (b.registerEach calls).types.keys ↔
      key ∈ b.types.keys ∨ key ∈ calls.map Prod.fst := by
  induction calls generalizing b with
  | nil => simp [registerEach]
  | cons call calls ih =>
    obtain ⟨key', type'⟩ := call
    simp only [registerEach, List.map_cons, List.mem_cons]
    cases h : b.register key' type' with
    | error e =>
      have htaken := (register_eq_error_iff.1 h).1
      dsimp only
      rw [ih]
      constructor
      · rintro (hold | hlater)
        · exact .inl hold
        · exact .inr (.inr hlater)
      · rintro (hold | rfl | hlater)
        · exact .inl hold
        · exact .inl htaken
        · exact .inr hlater
    | ok next =>
      dsimp only
      rw [ih, mem_keys_of_register h, or_assoc]

end TypeProjection.Registry.Builder
