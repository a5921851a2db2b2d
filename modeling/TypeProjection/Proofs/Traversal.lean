/-
  Proofs/Traversal.lean --- going through a list up to the first refusal.

  Whatever is done member by member here stops at the first member that is
  refused, and the refusal is reported for that member.  This file says once
  what "first" means and what a traversal with `Except` gives.
-/
import Mathlib.Data.List.Forall2

set_option autoImplicit false

namespace TypeProjection

variable {α β ε : Type}

/-! ## Results -/

theorem map_eq_ok_iff {f : α → β} {x : Except ε α} {b : β} :
    x.map f = .ok b ↔ ∃ a, x = .ok a ∧ f a = b := by
  cases x <;> simp [Except.map]

theorem bind_eq_ok_iff {x : Except ε α} {f : α → Except ε β} {b : β} :
    x >>= f = .ok b ↔ ∃ a, x = .ok a ∧ f a = .ok b := by
  cases x <;> simp [bind, Except.bind]

/-- Two results with the same image are the same failure, or have values with one image. -/
theorem alike_of_map_eq {f : α → β} {x y : Except ε α} (h : x.map f = y.map f) :
    (∃ e, x = .error e ∧ y = .error e) ∨ ∃ a b, x = .ok a ∧ y = .ok b ∧ f a = f b := by
  cases x with
  | error e =>
    cases y with
    | error e' => exact .inl ⟨e, rfl, congrArg _ (Except.error.inj h).symm⟩
    | ok b => cases h
  | ok a =>
    cases y with
    | error e' => cases h
    | ok b => exact .inr ⟨a, b, rfl, rfl, Except.ok.inj h⟩

theorem eq_ok_of_toOption {x : Except ε α} {a : α} (h : x.toOption = some a) : x = .ok a := by
  cases x with
  | error e => cases h
  | ok b => rw [Option.some.inj h]

/-! ## The first member with a property -/

/-- The first member of a list with a property: none in front of it has it. -/
def IsFirst (p : α → Prop) (xs : List α) (x : α) : Prop :=
  ∃ before after, xs = before ++ x :: after ∧ (∀ y ∈ before, ¬ p y) ∧ p x

theorem isFirst_cons_iff {p : α → Prop} {x y : α} {xs : List α} :
    IsFirst p (x :: xs) y ↔ (p x ∧ y = x) ∨ (¬ p x ∧ IsFirst p xs y) := by
  constructor
  · intro hex
    obtain ⟨before, after, heq, hbefore, hy⟩ := hex
    cases before with
    | nil =>
      obtain ⟨rfl, -⟩ := List.cons.inj heq
      exact Or.inl ⟨hy, rfl⟩
    | cons b before =>
      obtain ⟨rfl, rfl⟩ := List.cons.inj heq
      refine Or.inr ⟨hbefore x List.mem_cons_self, before, after, rfl, ?_, hy⟩
      intro z hz
      exact hbefore z (List.mem_cons_of_mem _ hz)
  · intro hor
    rcases hor with ⟨hx, rfl⟩ | ⟨hx, before, after, rfl, hbefore, hy⟩
    · exact ⟨[], xs, rfl, by simp, hx⟩
    · refine ⟨x :: before, after, rfl, ?_, hy⟩
      intro z hz
      rcases List.mem_cons.1 hz with rfl | hz
      · exact hx
      · exact hbefore z hz

theorem not_isFirst_nil {p : α → Prop} {x : α} : ¬ IsFirst p [] x := by
  intro hex
  obtain ⟨before, after, heq, -⟩ := hex
  simp at heq

theorem IsFirst.mem {p : α → Prop} {xs : List α} {x : α} (h : IsFirst p xs x) : x ∈ xs := by
  obtain ⟨before, after, rfl, -⟩ := h
  simp

theorem IsFirst.holds {p : α → Prop} {xs : List α} {x : α} (h : IsFirst p xs x) : p x :=
  h.choose_spec.choose_spec.2.2

theorem IsFirst.unique {p : α → Prop} {xs : List α} {x y : α} (hx : IsFirst p xs x)
    (hy : IsFirst p xs y) : x = y := by
  induction xs with
  | nil => exact absurd hx not_isFirst_nil
  | cons z xs ih =>
    rcases isFirst_cons_iff.1 hx with ⟨-, rfl⟩ | ⟨hz, hx⟩
    · rcases isFirst_cons_iff.1 hy with ⟨-, rfl⟩ | ⟨hz, -⟩
      · rfl
      · exact absurd hx.holds hz
    · rcases isFirst_cons_iff.1 hy with ⟨hz', -⟩ | ⟨-, hy⟩
      · exact absurd hz' hz
      · exact ih hx hy

/-- The first member of two lists is in the first one, or there is none there. -/
theorem isFirst_append_iff {p : α → Prop} {xs ys : List α} {y : α} :
    IsFirst p (xs ++ ys) y ↔ IsFirst p xs y ∨ ((∀ x ∈ xs, ¬ p x) ∧ IsFirst p ys y) := by
  induction xs with
  | nil => simp [not_isFirst_nil]
  | cons x xs ih =>
    simp only [List.cons_append, isFirst_cons_iff, ih, List.forall_mem_cons, and_assoc]
    tauto

/-- Unless no member has a property, there is a first one that has it. -/
theorem exists_isFirst {p : α → Prop} {xs : List α} (h : ¬ ∀ x ∈ xs, ¬ p x) :
    ∃ x, IsFirst p xs x := by
  induction xs with
  | nil => simp at h
  | cons x xs ih =>
    by_cases hx : p x
    · exact ⟨x, [], xs, rfl, by simp, hx⟩
    · obtain ⟨y, hy⟩ := ih fun hnone => h (List.forall_mem_cons.2 ⟨hx, hnone⟩)
      exact ⟨y, isFirst_cons_iff.2 (.inr ⟨hx, hy⟩)⟩

/-- The first image with a property is the image of the first member whose image
has it. -/
theorem isFirst_map_iff {f : α → β} {p : β → Prop} {xs : List α} {y : β} :
    IsFirst p (xs.map f) y ↔ ∃ x, IsFirst (fun x => p (f x)) xs x ∧ f x = y := by
  induction xs with
  | nil => simp [not_isFirst_nil]
  | cons x xs ih =>
    simp only [List.map_cons, isFirst_cons_iff, ih]
    constructor
    · intro hor
      rcases hor with ⟨hx, rfl⟩ | ⟨hx, z, hz, rfl⟩
      · exact ⟨x, Or.inl ⟨hx, rfl⟩, rfl⟩
      · exact ⟨z, Or.inr ⟨hx, hz⟩, rfl⟩
    · intro hex
      obtain ⟨z, ⟨hx, rfl⟩ | ⟨hx, hz⟩, rfl⟩ := hex
      · exact Or.inl ⟨hx, rfl⟩
      · exact Or.inr ⟨hx, z, hz, rfl⟩

/-- The first of the images that some members have, with a property, is that of the
first member with such an image. -/
theorem isFirst_filterMap_iff {f : α → Option β} {p : β → Prop} {xs : List α} {y : β} :
    IsFirst p (xs.filterMap f) y ↔
      ∃ x, IsFirst (fun x => ∃ z, f x = some z ∧ p z) xs x ∧ f x = some y := by
  induction xs with
  | nil => simp [not_isFirst_nil]
  | cons x xs ih =>
    simp only [List.filterMap_cons, isFirst_cons_iff]
    cases hx : f x with
    | none =>
      simp only [ih, reduceCtorEq, false_and, exists_false, not_false_eq_true, true_and, false_or]
    | some z =>
      simp only [isFirst_cons_iff, ih, Option.some.injEq, exists_eq_left']
      constructor
      · intro hor
        rcases hor with ⟨hz, rfl⟩ | ⟨hz, x', hx', hy⟩
        · exact ⟨x, .inl ⟨hz, rfl⟩, hx⟩
        · exact ⟨x', .inr ⟨hz, hx'⟩, hy⟩
      · intro hex
        obtain ⟨x', ⟨hz, rfl⟩ | ⟨hz, hx'⟩, hy⟩ := hex
        · exact .inl ⟨hz, Option.some.inj (hy.symm.trans hx)⟩
        · exact .inr ⟨hz, x', hx', hy⟩

/-- The image that a member has, if any, stands between those of the members around it. -/
theorem filterMap_middle (f : α → Option β) (before : List α) (x : α) (after : List α) :
    (before ++ x :: after).filterMap f =
      before.filterMap f ++ (f x).toList ++ after.filterMap f := by
  rw [List.filterMap_append, List.filterMap_cons]
  cases f x <;> simp

/-- A member that alone has a property is found in any order. -/
theorem find?_eq_of_perm {p : α → Bool} {xs ys : List α} (h : xs.Perm ys)
    (hunique : ∀ x ∈ xs, ∀ y ∈ xs, p x = true → p y = true → x = y) :
    xs.find? p = ys.find? p := by
  cases hx : xs.find? p with
  | none =>
    rw [List.find?_eq_none] at hx
    exact (List.find?_eq_none.2 fun y hy => hx y (h.mem_iff.2 hy)).symm
  | some x =>
    cases hy : ys.find? p with
    | none =>
      rw [List.find?_eq_none] at hy
      exact absurd (List.find?_some hx) (hy x (h.mem_iff.1 (List.mem_of_find?_eq_some hx)))
    | some y =>
      have hmem : y ∈ xs := h.mem_iff.2 (List.mem_of_find?_eq_some hy)
      rw [hunique x (List.mem_of_find?_eq_some hx) y hmem (List.find?_some hx) (List.find?_some hy)]

/-! ## Traversals -/

/-- A traversal deals with the first member, then with the others. -/
theorem mapM_cons_eq (f : α → Except ε β) (x : α) (xs : List α) :
    (x :: xs).mapM f =
      match f x with
      | .error e => .error e
      | .ok y => (xs.mapM f).map (y :: ·) := by
  rw [List.mapM_cons]
  cases f x with
  | error e => rfl
  | ok y => cases xs.mapM f <;> rfl

/-- Traversals that agree on all members are the same. -/
theorem mapM_congr_left {f g : α → Except ε β} {xs : List α} (h : ∀ x ∈ xs, f x = g x) :
    xs.mapM f = xs.mapM g := by
  induction xs with
  | nil => rfl
  | cons x xs ih =>
    rw [List.forall_mem_cons] at h
    rw [mapM_cons_eq, mapM_cons_eq, h.1, ih h.2]

/-- The images of the results are the results of a traversal of their own. -/
theorem map_mapM_eq {γ : Type} (f : α → Except ε β) (g : β → γ) (xs : List α) :
    (xs.mapM f).map (List.map g) = xs.mapM fun x => (f x).map g := by
  induction xs with
  | nil => rfl
  | cons x xs ih =>
    rw [mapM_cons_eq, mapM_cons_eq, ← ih]
    cases f x with
    | error e => rfl
    | ok y => cases xs.mapM f <;> rfl

/-- A traversal succeeds with the results of its members. -/
theorem mapM_eq_ok_iff {f : α → Except ε β} {xs : List α} {ys : List β} :
    xs.mapM f = .ok ys ↔ List.Forall₂ (fun x y => f x = .ok y) xs ys := by
  induction xs generalizing ys with
  | nil =>
    rw [List.forall₂_nil_left_iff, List.mapM_nil]
    exact ⟨fun h => (Except.ok.inj h).symm, fun h => h ▸ rfl⟩
  | cons x xs ih =>
    rw [mapM_cons_eq, List.forall₂_cons_left_iff]
    cases hx : f x with
    | error e => simp
    | ok y =>
      simp only [Except.ok.injEq, exists_and_left, exists_eq_left', ← ih]
      cases hxs : xs.mapM f with
      | error e => simp [Except.map]
      | ok rest => simp [Except.map, eq_comm]

/-- A traversal fails with the error of the first member that has no result. -/
theorem mapM_eq_error_iff {f : α → Except ε β} {xs : List α} {e : ε} :
    xs.mapM f = .error e ↔ ∃ x, IsFirst (fun x => ∀ y, f x ≠ .ok y) xs x ∧ f x = .error e := by
  induction xs with
  | nil =>
    simp only [List.mapM_nil, pure, Except.pure, reduceCtorEq, false_iff]
    intro hex
    obtain ⟨x, hx, -⟩ := hex
    exact not_isFirst_nil hx
  | cons x xs ih =>
    rw [mapM_cons_eq]
    simp only [isFirst_cons_iff]
    cases hx : f x with
    | error e' =>
      have hnone : ∀ y, (Except.error e' : Except ε β) ≠ .ok y := by simp
      simp only [Except.error.injEq]
      constructor
      · rintro rfl
        exact ⟨x, Or.inl ⟨hnone, rfl⟩, hx⟩
      · intro hex
        obtain ⟨z, ⟨-, rfl⟩ | ⟨hsome, -⟩, hz⟩ := hex
        · exact Except.error.inj (hx.symm.trans hz)
        · exact absurd hnone hsome
    | ok y =>
      have hsome : ¬ ∀ z, (Except.ok y : Except ε β) ≠ .ok z := fun h => h y rfl
      simp only [hsome, false_and, false_or, not_false_eq_true, true_and, ← ih]
      cases xs.mapM f <;> simp [Except.map]

/-- What a traversal that succeeds gives for a member. -/
theorem exists_of_mem_of_forall₂ {R : α → β → Prop} {xs : List α} {ys : List β}
    (h : List.Forall₂ R xs ys) {x : α} (hx : x ∈ xs) : ∃ y ∈ ys, R x y := by
  induction h with
  | nil => simp at hx
  | cons hxy _ ih =>
    rcases List.mem_cons.1 hx with rfl | hx
    · exact ⟨_, List.mem_cons_self, hxy⟩
    · obtain ⟨y, hy, hr⟩ := ih hx
      exact ⟨y, List.mem_cons_of_mem _ hy, hr⟩

/-- Results for all members are a result of the traversal. -/
theorem exists_forall₂_of_forall {R : α → β → Prop} {xs : List α} (h : ∀ x ∈ xs, ∃ y, R x y) :
    ∃ ys, List.Forall₂ R xs ys := by
  induction xs with
  | nil => exact ⟨[], .nil⟩
  | cons x xs ih =>
    obtain ⟨y, hy⟩ := h x List.mem_cons_self
    obtain ⟨ys, hys⟩ := ih fun z hz => h z (List.mem_cons_of_mem _ hz)
    exact ⟨y :: ys, .cons hy hys⟩

/-- What is made of the members of a list in two ways is related one by one. -/
theorem forall₂_map_map {γ : Type} {R : β → γ → Prop} {f : α → β} {g : α → γ} {xs : List α}
    (h : ∀ x ∈ xs, R (f x) (g x)) : List.Forall₂ R (xs.map f) (xs.map g) := by
  rw [List.forall₂_map_left_iff, List.forall₂_map_right_iff, List.forall₂_same]
  exact h

/-! ## Results that agree -/

/-- Two results agree if they are the same failure, or values in a relation. -/
inductive Agree (R : α → β → Prop) : Except ε α → Except ε β → Prop where
  /-- both fail alike -/
  | error (e : ε) : Agree R (.error e) (.error e)
  /-- both have values -/
  | ok {a : α} {b : β} (h : R a b) : Agree R (.ok a) (.ok b)

namespace Agree

variable {γ δ ε' : Type} {R : α → β → Prop} {S : γ → δ → Prop} {x : Except ε α} {y : Except ε β}

theorem map {f : α → γ} {g : β → δ} (h : Agree R x y) (hfg : ∀ a b, R a b → S (f a) (g b)) :
    Agree S (x.map f) (y.map g) := by
  cases h with
  | error e => exact .error e
  | ok h => exact .ok (hfg _ _ h)

theorem bind {f : α → Except ε γ} {g : β → Except ε δ} (h : Agree R x y)
    (hfg : ∀ a b, R a b → Agree S (f a) (g b)) : Agree S (x >>= f) (y >>= g) := by
  cases h with
  | error e => exact .error e
  | ok h => exact hfg _ _ h

/-- Both go on after the same result. -/
theorem bind_same {x : Except ε α} {f : α → Except ε γ} {g : α → Except ε δ}
    (hfg : ∀ a, Agree S (f a) (g a)) : Agree S (x >>= f) (x >>= g) := by
  cases x with
  | error e => exact .error e
  | ok a => exact hfg a

theorem mapError (h : Agree R x y) (f : ε → ε') : Agree R (x.mapError f) (y.mapError f) := by
  cases h with
  | error e => exact .error (f e)
  | ok h => exact .ok h

/-- Traversals agree if they agree on members that correspond. -/
theorem mapM {P : γ → δ → Prop} {f : γ → Except ε α} {g : δ → Except ε β} {xs : List γ}
    {ys : List δ} (h : List.Forall₂ P xs ys) (hfg : ∀ a b, P a b → Agree R (f a) (g b)) :
    Agree (List.Forall₂ R) (xs.mapM f) (ys.mapM g) := by
  induction h with
  | nil => exact .ok .nil
  | @cons a b xs ys hab _ ih =>
    rw [mapM_cons_eq, mapM_cons_eq]
    have hagree := hfg a b hab
    generalize f a = first, g b = first' at hagree
    cases hagree with
    | error e => exact .error e
    | ok hfirst => exact ih.map fun _ _ hrest => .cons hfirst hrest

end Agree

end TypeProjection
