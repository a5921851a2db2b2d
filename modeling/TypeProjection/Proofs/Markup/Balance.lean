/-
  Proofs/Markup/Balance.lean --- where an element ends, by counting tags.

  Behind the start tag of an element its end tag is the first one that makes the end tags
  outnumber the start tags, and nothing but tags of elements with content counts.  The
  count that is kept on the way is the depth of `afterElement?`; each event changes it and
  the excess that is looked for alike (`Shortest.cons_iff`).
-/
import Mathlib.Order.Minimal
import TypeProjection.Markup.Event

set_option autoImplicit false

namespace TypeProjection.Markup

/-! ## Counting tags -/

/-- Whether an event is a start tag. -/
def Event.isStart : Event → Bool
  | .opened _ => true
  | .closed | .childless _ | .aside => false

/-- How many start tags there are. -/
def startTags (events : List Event) : Nat :=
  events.countP Event.isStart

/-- How many end tags there are. -/
def endTags (events : List Event) : Nat :=
  events.count .closed

/-- There are so many more end tags than start tags. -/
def Outnumber (excess : Nat) (events : List Event) : Prop :=
  endTags events = startTags events + excess

/-- The shortest beginning of some events in which the end tags outnumber the start tags by
so many. -/
structure Shortest (excess : Nat) (events front : List Event) : Prop where
  /-- It is a beginning. -/
  begins : front <+: events
  /-- The end tags outnumber the start tags. -/
  outnumber : Outnumber excess front
  /-- In no shorter beginning they do. -/
  least : ∀ shorter, shorter <+: events → Outnumber excess shorter →
    front.length ≤ shorter.length

variable {excess excess' : Nat} {events : List Event}

/-- Without any event there are as many end tags as start tags. -/
theorem not_outnumber_nil (h : 0 < excess) : ¬ Outnumber excess [] := by
  intro hnil
  have hcount : 0 = 0 + excess := hnil
  omega

theorem outnumber_opened (tag : Tag) (front : List Event) :
    Outnumber excess (.opened tag :: front) ↔ Outnumber (excess + 1) front := by
  have hstart : startTags (.opened tag :: front) = startTags front + 1 :=
    List.countP_cons_of_pos rfl
  have hend : endTags (.opened tag :: front) = endTags front := by simp [endTags]
  rw [Outnumber, Outnumber, hstart, hend]
  omega

theorem outnumber_closed (front : List Event) :
    Outnumber (excess + 1) (.closed :: front) ↔ Outnumber excess front := by
  have hstart : startTags (.closed :: front) = startTags front := List.countP_cons_of_neg nofun
  have hend : endTags (.closed :: front) = endTags front + 1 := List.count_cons_self
  rw [Outnumber, Outnumber, hstart, hend]
  omega

theorem outnumber_childless (tag : Tag) (front : List Event) :
    Outnumber excess (.childless tag :: front) ↔ Outnumber excess front := by
  simp [Outnumber, endTags, startTags, Event.isStart]

theorem outnumber_aside (front : List Event) :
    Outnumber excess (.aside :: front) ↔ Outnumber excess front := by
  simp [Outnumber, endTags, startTags, Event.isStart]

/-! ## One more event in front -/

namespace Shortest

theorem ne_nil {front : List Event} (h : Shortest excess events front) (hexcess : 0 < excess) :
    front ≠ [] := by
  rintro rfl
  exact not_outnumber_nil hexcess h.outnumber

/-- One more event in front changes the excess that is looked for, and is in front of what is
found. -/
theorem cons_iff {event : Event} (hexcess : 0 < excess)
    (hshift : ∀ front, Outnumber excess (event :: front) ↔ Outnumber excess' front)
    (front : List Event) :
    Shortest excess (event :: events) front ↔
      ∃ front', front = event :: front' ∧ Shortest excess' events front' := by
  constructor
  · intro h
    cases front with
    | nil => exact absurd rfl (h.ne_nil hexcess)
    | cons first front =>
      obtain ⟨rfl, hbegins⟩ := List.cons_prefix_cons.1 h.begins
      refine ⟨front, rfl, hbegins, (hshift front).1 h.outnumber, fun shorter hshorter hfound => ?_⟩
      have hle := h.least (first :: shorter) (List.cons_prefix_cons.2 ⟨rfl, hshorter⟩)
        ((hshift shorter).2 hfound)
      simpa using hle
  · rintro ⟨front, rfl, h⟩
    refine ⟨List.cons_prefix_cons.2 ⟨rfl, h.begins⟩, (hshift front).2 h.outnumber,
      fun shorter hshorter hfound => ?_⟩
    cases shorter with
    | nil => exact absurd hfound (not_outnumber_nil hexcess)
    | cons first shorter =>
      obtain ⟨rfl, hbegins⟩ := List.cons_prefix_cons.1 hshorter
      have hle := h.least shorter hbegins ((hshift shorter).1 hfound)
      simpa using hle

/-- An excess of nothing is there at once. -/
theorem zero_iff {front : List Event} : Shortest 0 events front ↔ front = [] := by
  constructor
  · intro h
    have hle := h.least [] List.nil_prefix rfl
    simpa using hle
  · rintro rfl
    exact ⟨List.nil_prefix, rfl, fun _ _ _ => Nat.zero_le _⟩

/-- What is left behind the shortest beginning is left behind it with one more event in
front. -/
theorem exists_append_cons_iff {event : Event} {rest : List Event} (hexcess : 0 < excess)
    (hshift : ∀ front, Outnumber excess (event :: front) ↔ Outnumber excess' front) :
    (∃ front, event :: events = front ++ rest ∧ Shortest excess (event :: events) front) ↔
      ∃ front, events = front ++ rest ∧ Shortest excess' events front := by
  simp only [cons_iff hexcess hshift]
  constructor
  · rintro ⟨_, heq, front, rfl, h⟩
    exact ⟨front, (List.cons.inj heq).2, h⟩
  · rintro ⟨front, heq, h⟩
    exact ⟨event :: front, congrArg (event :: ·) heq, front, rfl, h⟩

/-- If the end tags outnumber the start tags somewhere, there is a first such place. -/
theorem exists_of_outnumber {front : List Event} (hbegins : front <+: events)
    (hfront : Outnumber excess front) : ∃ first, Shortest excess events first := by
  obtain ⟨first, hfirst⟩ := exists_minimalFor_of_wellFoundedLT
    (fun front => front <+: events ∧ Outnumber excess front) List.length ⟨front, hbegins, hfront⟩
  exact ⟨first, hfirst.prop.1, hfirst.prop.2, fun shorter hshorter hfound =>
    Nat.le_of_not_lt (hfirst.not_lt ⟨hshorter, hfound⟩)⟩

end Shortest

/-! ## Where an element ends -/

/-- What is left behind some open elements stands behind the shortest beginning in which the
end tags outnumber the start tags by these elements. -/
theorem afterElement?_eq_some_iff (depth : Nat) (events rest : List Event) :
    afterElement? depth events = some rest ↔
      ∃ front, events = front ++ rest ∧ Shortest (depth + 1) events front := by
  fun_induction afterElement? depth events with
  | case1 depth =>
    refine iff_of_false (Option.some_ne_none rest).symm ?_
    rintro ⟨front, -, h⟩
    exact h.ne_nil (Nat.succ_pos depth) (List.prefix_nil.1 h.begins)
  | case2 depth tag events ih =>
    rw [ih, Shortest.exists_append_cons_iff (Nat.succ_pos depth) (outnumber_opened tag)]
  | case3 events =>
    rw [Shortest.exists_append_cons_iff Nat.one_pos outnumber_closed]
    simp [Shortest.zero_iff]
  | case4 depth events ih =>
    rw [ih, Shortest.exists_append_cons_iff (Nat.succ_pos _) outnumber_closed]
  | case5 depth tag events ih =>
    rw [ih, Shortest.exists_append_cons_iff (Nat.succ_pos depth) (outnumber_childless tag)]
  | case6 depth events ih =>
    rw [ih, Shortest.exists_append_cons_iff (Nat.succ_pos depth) outnumber_aside]

/-- Some open elements are not left exactly if the end tags never outnumber the start tags by
these elements. -/
theorem afterElement?_eq_none_iff (depth : Nat) (events : List Event) :
    afterElement? depth events = none ↔
      ∀ front, front <+: events → ¬ Outnumber (depth + 1) front := by
  constructor
  · intro hnone front hbegins hfront
    obtain ⟨first, hfirst⟩ := Shortest.exists_of_outnumber hbegins hfront
    obtain ⟨rest, hrest⟩ := hfirst.begins
    have hsome := (afterElement?_eq_some_iff depth events rest).2 ⟨first, hrest.symm, hfirst⟩
    rw [hnone] at hsome
    cases hsome
  · intro hnever
    refine Option.eq_none_iff_forall_ne_some.2 fun rest hsome => ?_
    obtain ⟨front, -, hfront⟩ := (afterElement?_eq_some_iff depth events rest).1 hsome
    exact hnever front hfront.begins hfront.outnumber

end TypeProjection.Markup
