/-
  Proofs/Casing/Settled.lean --- images that are not mapped any further.

  The upper case of a character begins with a character that is its own upper case.  For a
  whole run of characters this is seen from its ends: the other runs lie in front of its
  images or behind them, or go in steps of two over characters of the other parity
  (`Run.isApart`).
-/
import TypeProjection.Proofs.Casing.Images

set_option autoImplicit false

namespace TypeProjection.Casing

/-! ## Runs -/

/-- Whether the images of a run lie apart from runs that are sorted by where they begin: none
of them is on one of these. -/
def Run.isApart (r : Run) : List Run → Bool
  | [] => true
  | s :: ss =>
    if s.last < r.image then r.isApart ss
    else if r.image + (r.last - r.first) < s.first then true
    else (r.stride % 2 == 0 || r.first == r.last) && s.stride % 2 == 0 &&
      r.image % 2 != s.first % 2 && r.isApart ss

/-- A run in steps of two covers characters of one parity. -/
theorem Run.even_of_covers {r : Run} (hr : r.stride % 2 = 0) {n : Nat} (hn : r.covers n = true) :
    (n - r.first) % 2 = 0 := by
  obtain ⟨-, -, hstride⟩ := covers_iff.1 hn
  exact Nat.mod_eq_zero_of_dvd
    (Nat.dvd_trans (Nat.dvd_of_mod_eq_zero hr) (Nat.dvd_of_mod_eq_zero hstride))

/-- Runs in steps of two over characters of different parity have no character in common. -/
theorem Run.covers_image_eq_false {r s : Run} (hr : r.stride % 2 = 0 ∨ r.first = r.last)
    (hs : s.stride % 2 = 0) (hparity : r.image % 2 ≠ s.first % 2) {n : Nat}
    (hn : r.covers n = true) : s.covers (r.image + (n - r.first)) = false := by
  have heven : (n - r.first) % 2 = 0 := by
    rcases hr with heven | hsingle
    · exact even_of_covers heven hn
    · obtain ⟨hfirst, hlast, -⟩ := covers_iff.1 hn
      omega
  refine Bool.eq_false_iff.2 fun hcovers => ?_
  obtain ⟨hfirst, -, -⟩ := covers_iff.1 hcovers
  have heven' := even_of_covers hs hcovers
  omega

/-- A run that does not cover a code point may be left out when it is looked up in vain. -/
theorem Run.find?_cons_eq_none {s : Run} {ss : List Run} {n : Nat} (hs : s.covers n = false)
    (hss : find? ss n = none) : find? (s :: ss) n = none := by
  unfold find?
  split
  · rfl
  · rw [hs, if_neg Bool.false_ne_true, hss]

/-- Nothing is found for the images of a run among runs that they lie apart from. -/
theorem Run.find?_image_eq_none {r : Run} {runs : List Run} (h : r.isApart runs = true) {n : Nat}
    (hn : r.covers n = true) : find? runs (r.image + (n - r.first)) = none := by
  obtain ⟨hfirst, hlast, -⟩ := covers_iff.1 hn
  induction runs with
  | nil => rfl
  | cons s ss ih =>
    unfold isApart at h
    split at h
    · rename_i hbehind
      have hcovers : s.covers (r.image + (n - r.first)) = false := by
        refine Bool.eq_false_iff.2 fun hcovers => ?_
        obtain ⟨-, hlast', -⟩ := covers_iff.1 hcovers
        omega
      exact find?_cons_eq_none hcovers (ih h)
    · split at h
      · -- the search stops in front of a run that begins behind all images
        unfold find?
        exact if_pos (by omega)
      · simp only [Bool.and_eq_true, Bool.or_eq_true, beq_iff_eq, bne_iff_ne] at h
        obtain ⟨⟨⟨hr, hs⟩, hparity⟩, h⟩ := h
        exact find?_cons_eq_none (covers_image_eq_false hr hs hparity hn) (ih h)

/-- The run of the one character that has an expansion. -/
def Expansion.run (e : Expansion) : Run :=
  ⟨e.source, e.source, 1, e.source⟩

/-- A code point is looked up among expansions as among the runs of their characters. -/
theorem Expansion.find?_eq_none {expansions : List Expansion} {n : Nat}
    (h : Run.find? (expansions.map run) n = none) : find? expansions n = none := by
  induction expansions with
  | nil => rfl
  | cons e expansions ih =>
    rw [List.map_cons, Run.find?] at h
    unfold find?
    by_cases hfirst : n < e.source
    · exact if_pos hfirst
    · rw [if_neg (show ¬n < e.run.first from hfirst)] at h
      rw [if_neg hfirst]
      split at h
      · cases h
      · rename_i hcovers
        have hne : n ≠ e.source := by
          rintro rfl
          exact hcovers (Run.covers_iff.2 ⟨Nat.le_refl _, Nat.le_refl _, Nat.mod_one _⟩)
        rw [if_neg hne]
        exact ih h

/-! ## Mappings -/

/-- A code point that is not mapped to others. -/
def IsFixed (runs : List Run) (expansions : List Expansion) (n : Nat) : Prop :=
  Run.find? runs n = none ∧ Expansion.find? expansions n = none

instance (runs : List Run) (expansions : List Expansion) (n : Nat) :
    Decidable (IsFixed runs expansions n) :=
  inferInstanceAs (Decidable (_ ∧ _))

/-- A mapping whose images begin with characters that are not mapped to others. -/
structure Settled (runs : List Run) (expansions : List Expansion) : Prop where
  /-- A code point without a character is replaced by this one. -/
  zero : IsFixed runs expansions 0
  /-- The images of a run are on no run and have no expansion. -/
  ofRun : ∀ run ∈ runs, run.isApart runs = true ∧
    run.isApart (expansions.map Expansion.run) = true
  /-- The first character of an expansion is on no run and has no expansion. -/
  ofExpansion : ∀ expansion ∈ expansions, ∀ n ∈ expansion.image.head?,
    IsFixed runs expansions n

theorem imageOf_of_isFixed {runs : List Run} {expansions : List Expansion} {c : Char}
    (h : IsFixed runs expansions c.toNat) : imageOf runs expansions c = [c] := by
  rw [imageOf, h.1, h.2]

/-- The character of a code point is fixed if the code point is. -/
theorem Settled.imageOf_ofNat {runs : List Run} {expansions : List Expansion}
    (h : Settled runs expansions) {n : Nat} (hn : IsFixed runs expansions n) :
    imageOf runs expansions (Char.ofNat n) = [Char.ofNat n] := by
  refine imageOf_of_isFixed ?_
  by_cases hzero : (Char.ofNat n).toNat = 0
  · rw [hzero]
    exact h.zero
  · rw [toNat_eq_of_ofNat_eq rfl hzero]
    exact hn

/-- An image begins with a character that is its own image. -/
theorem Settled.imageOf_head {runs : List Run} {expansions : List Expansion}
    (h : Settled runs expansions) {c d : Char} (hd : d ∈ (imageOf runs expansions c).head?) :
    imageOf runs expansions d = [d] := by
  rw [imageOf] at hd
  split at hd
  · rename_i n hfind
    obtain ⟨run, hrun, hcovers, rfl⟩ := Run.exists_covers_of_find?_eq_some hfind
    obtain rfl := Option.some.inj hd
    obtain ⟨hruns, hexpansions⟩ := h.ofRun run hrun
    exact h.imageOf_ofNat ⟨Run.find?_image_eq_none hruns hcovers,
      Expansion.find?_eq_none (Run.find?_image_eq_none hexpansions hcovers)⟩
  · split at hd
    · rename_i image hfind
      obtain ⟨expansion, hexpansion, rfl⟩ := Expansion.exists_of_find?_eq_some hfind
      rw [List.head?_map] at hd
      obtain ⟨n, hn, rfl⟩ := Option.map_eq_some_iff.1 hd
      exact h.imageOf_ofNat (h.ofExpansion expansion hexpansion n hn)
    · rename_i _ hruns _ hexpansions
      obtain rfl := Option.some.inj hd
      exact imageOf_of_isFixed ⟨hruns, hexpansions⟩

theorem settled_upper : Settled upperRuns upperExpansions where
  zero := by decide +kernel
  ofRun := by decide +kernel
  ofExpansion := by decide +kernel

/-- The upper case of a character begins with a character that is its own upper case. -/
theorem upper_head_upper {c d : Char} (h : d ∈ (upper c).head?) : upper d = [d] :=
  settled_upper.imageOf_head h

end TypeProjection.Casing
