/-
  Proofs/Markup/Nesting.lean --- elements that end, and those that do not.

  Behind the start tag of an element stand other elements, and then its end tag,
  unless the events end first.  Where an element ends is a relation here, with one
  clause for every event that may come next; it is the one that `afterElement?`
  computes.  What stands in front of the end tag is then a list of whole elements
  (`Nested`).
-/
import TypeProjection.Markup.Event

set_option autoImplicit false

namespace TypeProjection.Markup

/-! ## Elements that end -/

/-- The element whose start tag stands in front of some events ends in them, and
the rest stands behind its end tag. -/
inductive EndsBefore : (events rest : List Event) → Prop where
  /-- here is its end tag -/
  | closed {rest : List Event} : EndsBefore (.closed :: rest) rest
  /-- something that is no element -/
  | aside {events rest : List Event} (h : EndsBefore events rest) :
    EndsBefore (.aside :: events) rest
  /-- an element without content inside it -/
  | childless {tag : Tag} {events rest : List Event} (h : EndsBefore events rest) :
    EndsBefore (.childless tag :: events) rest
  /-- an element with content inside it, which ends first -/
  | opened {tag : Tag} {events behind rest : List Event} (hinner : EndsBefore events behind)
    (h : EndsBefore behind rest) : EndsBefore (.opened tag :: events) rest

/-- To leave some elements and then others is to leave all of them. -/
theorem afterElement?_add (depth outer : Nat) (events : List Event) :
    afterElement? (depth + (outer + 1)) events =
      (afterElement? depth events).bind (afterElement? outer) := by
  fun_induction afterElement? depth events with
  | case1 => simp [afterElement?]
  | case2 depth tag events ih =>
    rw [← ih, afterElement?]
    congr 1
    omega
  | case3 events =>
    rw [Nat.zero_add, afterElement?]
    rfl
  | case4 depth events ih =>
    rw [← ih]
    show afterElement? (depth + 1 + (outer + 1)) _ = _
    rw [Nat.add_right_comm, afterElement?]
  | case5 depth tag events ih => rw [← ih, afterElement?]
  | case6 depth events ih => rw [← ih, afterElement?]

theorem EndsBefore.afterElement?_eq {events rest : List Event} (h : EndsBefore events rest) :
    afterElement? 0 events = some rest := by
  induction h with
  | closed => rfl
  | aside _ ih => rwa [afterElement?]
  | childless _ ih => rwa [afterElement?]
  | opened _ _ ihinner ih => rw [afterElement?, afterElement?_add 0 0, ihinner, Option.bind_some, ih]

theorem endsBefore_of_afterElement? {events rest : List Event}
    (h : afterElement? 0 events = some rest) : EndsBefore events rest := by
  match events with
  | [] => simp [afterElement?] at h
  | .closed :: events =>
    obtain rfl := Option.some.inj h
    exact .closed
  | .aside :: events => exact .aside (endsBefore_of_afterElement? h)
  | .childless tag :: events => exact .childless (endsBefore_of_afterElement? h)
  | .opened tag :: events =>
    rw [afterElement?, afterElement?_add 0 0, Option.bind_eq_some_iff] at h
    obtain ⟨behind, hinner, h⟩ := h
    have hshorter := length_of_afterElement? hinner
    exact .opened (endsBefore_of_afterElement? hinner) (endsBefore_of_afterElement? h)
termination_by events.length
decreasing_by all_goals grind

/-- An element ends in some events exactly if its end is found. -/
theorem endsBefore_iff {events rest : List Event} :
    EndsBefore events rest ↔ afterElement? 0 events = some rest :=
  ⟨EndsBefore.afterElement?_eq, endsBefore_of_afterElement?⟩

/-! ## Whole elements -/

/-- Events of whole elements, one behind the other: what may stand between a start tag and
its end tag. -/
inductive Nested : List Event → Prop where
  /-- no event -/
  | nil : Nested []
  /-- something that is no element -/
  | aside {events : List Event} (h : Nested events) : Nested (.aside :: events)
  /-- an element without content, as one event -/
  | childless {tag : Tag} {events : List Event} (h : Nested events) :
    Nested (.childless tag :: events)
  /-- an element between its start tag and its end tag -/
  | element {tag : Tag} {inner events : List Event} (hinner : Nested inner)
    (h : Nested events) : Nested (.opened tag :: (inner ++ .closed :: events))

/-- Whole elements leave the number of open elements as it was. -/
theorem Nested.afterElement?_append {events : List Event} (h : Nested events) (depth : Nat)
    (rest : List Event) : afterElement? depth (events ++ rest) = afterElement? depth rest := by
  induction h generalizing depth rest with
  | nil => rfl
  | aside h ih => simp only [List.cons_append, afterElement?, ih]
  | childless h ih => simp only [List.cons_append, afterElement?, ih]
  | element hinner h ihinner ih =>
    simp only [List.cons_append, List.append_assoc, afterElement?, ihinner, ih]

theorem EndsBefore.exists_nested {events rest : List Event} (h : EndsBefore events rest) :
    ∃ inner, Nested inner ∧ events = inner ++ .closed :: rest := by
  induction h with
  | closed => exact ⟨[], .nil, rfl⟩
  | aside _ ih =>
    obtain ⟨inner, hnested, rfl⟩ := ih
    exact ⟨_, .aside hnested, rfl⟩
  | childless _ ih =>
    obtain ⟨inner, hnested, rfl⟩ := ih
    exact ⟨_, .childless hnested, rfl⟩
  | @opened tag _ _ _ _ _ ihinner ih =>
    obtain ⟨inner, hnested, rfl⟩ := ihinner
    obtain ⟨others, hothers, rfl⟩ := ih
    refine ⟨.opened tag :: (inner ++ .closed :: others), .element hnested hothers, ?_⟩
    rw [List.cons_append, List.append_assoc, List.cons_append]

/-- An element ends at the end tag behind the whole elements inside it. -/
theorem afterElement?_eq_some_iff_nested {events rest : List Event} :
    afterElement? 0 events = some rest ↔
      ∃ inner, Nested inner ∧ events = inner ++ .closed :: rest := by
  constructor
  · intro h
    exact (endsBefore_of_afterElement? h).exists_nested
  · rintro ⟨inner, hnested, rfl⟩
    rw [hnested.afterElement?_append, afterElement?]

/-! ## Elements that do not end -/

/-- The tags of the elements that are opened and not closed, from the outside. -/
def unclosed : List Event → List Tag
  | [] => []
  | .opened tag :: events =>
    if afterElement? 0 events = none then tag :: unclosed events else unclosed events
  | .closed :: events => unclosed events
  | .childless _ :: events => unclosed events
  | .aside :: events => unclosed events

/-- Nothing that stands in an element that ends is left open. -/
theorem EndsBefore.unclosed_eq {events rest : List Event} (h : EndsBefore events rest) :
    unclosed events = unclosed rest := by
  induction h with
  | closed => rfl
  | aside _ ih => exact ih
  | childless _ ih => exact ih
  | opened hinner _ ihinner ih =>
    rw [unclosed, hinner.afterElement?_eq, if_neg (by simp), ihinner, ih]

/-- An element that ends is not left open. -/
theorem unclosed_opened {events rest : List Event} (h : EndsBefore events rest) (tag : Tag) :
    unclosed (.opened tag :: events) = unclosed rest := by
  rw [unclosed, h.afterElement?_eq, if_neg (by simp), h.unclosed_eq]

end TypeProjection.Markup
