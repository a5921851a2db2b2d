/-
  Proofs/Casing/Images.lean --- characters that a change of case does not bring in.

  A mapping of characters brings a character in only as the image of a run or of
  an expansion, so that a character outside all of these images is in a mapped
  text only where it was before.
-/
import TypeProjection.Casing.Mapping

set_option autoImplicit false

namespace TypeProjection.Casing

/-! ## Tables -/

/-- What is found among runs is the image on a run that covers the code point. -/
theorem Run.exists_covers_of_find?_eq_some {runs : List Run} {n m : Nat}
    (h : Run.find? runs n = some m) :
    ∃ run ∈ runs, run.covers n = true ∧ run.image + (n - run.first) = m := by
  induction runs with
  | nil => simp [find?] at h
  | cons run runs ih =>
    unfold find? at h
    split at h
    · simp at h
    · split at h
      · rename_i hcovers
        exact ⟨run, List.mem_cons_self, hcovers, Option.some.inj h⟩
      · obtain ⟨run', hrun', hm⟩ := ih h
        exact ⟨run', List.mem_cons_of_mem _ hrun', hm⟩

theorem Run.covers_iff {run : Run} {n : Nat} :
    run.covers n = true ↔
      run.first ≤ n ∧ n ≤ run.last ∧ (n - run.first) % run.stride = 0 := by
  simp [covers, and_assoc]

/-- A code point found among runs is between the images of the ends of a run. -/
theorem Run.exists_of_find?_eq_some {runs : List Run} {n m : Nat}
    (h : Run.find? runs n = some m) :
    ∃ run ∈ runs, run.image ≤ m ∧ m ≤ run.image + (run.last - run.first) := by
  obtain ⟨run, hrun, hcovers, rfl⟩ := exists_covers_of_find?_eq_some h
  obtain ⟨-, hlast, -⟩ := covers_iff.1 hcovers
  exact ⟨run, hrun, by omega, by omega⟩

theorem Expansion.exists_of_find?_eq_some {expansions : List Expansion} {n : Nat}
    {image : List Nat} (h : Expansion.find? expansions n = some image) :
    ∃ expansion ∈ expansions, expansion.image = image := by
  induction expansions with
  | nil => simp [find?] at h
  | cons expansion expansions ih =>
    unfold find? at h
    split at h
    · simp at h
    · split at h
      · exact ⟨expansion, List.mem_cons_self, Option.some.inj h⟩
      · obtain ⟨expansion', hmem, himage⟩ := ih h
        exact ⟨expansion', List.mem_cons_of_mem _ hmem, himage⟩

/-! ## Mappings -/

/-- A character that no run and no expansion has in its images. -/
structure Avoids (runs : List Run) (expansions : List Expansion) (d : Char) : Prop where
  /-- A code point without a character is replaced by this one. -/
  valid : d.toNat ≠ 0
  /-- The character lies in front of all images of a run or behind them. -/
  runs : ∀ run ∈ runs, d.toNat < run.image ∨ run.image + (run.last - run.first) < d.toNat
  /-- No expansion has the character. -/
  expansions : ∀ expansion ∈ expansions, d.toNat ∉ expansion.image

theorem toNat_eq_of_ofNat_eq {n : Nat} {d : Char} (h : Char.ofNat n = d) (hd : d.toNat ≠ 0) :
    d.toNat = n := by
  by_cases hvalid : n.isValidChar
  · have heq : Char.ofNat n = Char.ofNatAux n hvalid := dif_pos hvalid
    rw [← h, heq]
    rfl
  · have heq : Char.ofNat n = '\x00' := dif_neg hvalid
    rw [← h, heq] at hd
    exact absurd rfl hd

/-- A character that is avoided is the image of nothing but itself. -/
theorem not_mem_imageOf {runs : List Run} {expansions : List Expansion} {c d : Char}
    (h : Avoids runs expansions d) (hne : c ≠ d) : d ∉ imageOf runs expansions c := by
  intro hmem
  unfold imageOf at hmem
  split at hmem
  · rename_i n hfind
    obtain ⟨run, hrun, hlow, hhigh⟩ := Run.exists_of_find?_eq_some hfind
    have hd := toNat_eq_of_ofNat_eq (List.mem_singleton.1 hmem).symm h.valid
    have := h.runs run hrun
    omega
  · split at hmem
    · rename_i image hfind
      obtain ⟨expansion, hexpansion, rfl⟩ := Expansion.exists_of_find?_eq_some hfind
      obtain ⟨n, hn, heq⟩ := List.mem_map.1 hmem
      obtain rfl : d.toNat = n := toNat_eq_of_ofNat_eq heq h.valid
      exact h.expansions expansion hexpansion hn
    · exact hne (List.mem_singleton.1 hmem).symm

theorem not_mem_uppercase {d : Char} {cs : List Char}
    (h : Avoids upperRuns upperExpansions d) (hcs : d ∉ cs) : d ∉ uppercase cs := by
  unfold uppercase
  rw [List.mem_flatMap]
  intro hex
  obtain ⟨c, hc, hd⟩ := hex
  exact not_mem_imageOf h (fun heq => hcs (heq ▸ hc)) hd

/-- In a text that stands behind another one, only a sigma is brought in besides the lower
case of characters. -/
theorem not_mem_lowercaseBehind {d : Char} {cs : List Char}
    (h : Avoids lowerRuns lowerExpansions d) (hsigma : d ∉ ['ς', 'σ']) (hcs : d ∉ cs)
    (before : List Char) : d ∉ lowercaseBehind before cs := by
  induction cs generalizing before with
  | nil => exact hcs
  | cons c cs ih =>
    obtain ⟨hc, hcs⟩ := not_or.1 (mt List.mem_cons.2 hcs)
    rw [lowercaseBehind, List.mem_append, not_or]
    refine ⟨?_, ih hcs _⟩
    split
    · unfold lowerSigma
      split <;> simp_all
    · exact not_mem_imageOf h (Ne.symm hc)

theorem not_mem_lowercase {d : Char} {cs : List Char} (h : Avoids lowerRuns lowerExpansions d)
    (hsigma : d ∉ ['ς', 'σ']) (hcs : d ∉ cs) : d ∉ lowercase cs :=
  not_mem_lowercaseBehind h hsigma hcs []

/-- No upper case ends a line. -/
theorem avoids_upper_newline : Avoids upperRuns upperExpansions '\n' where
  valid := by decide
  runs := by decide +kernel
  expansions := by decide +kernel

/-- No upper case has an underscore. -/
theorem avoids_upper_underscore : Avoids upperRuns upperExpansions '_' where
  valid := by decide
  runs := by decide +kernel
  expansions := by decide +kernel

/-- No lower case has an underscore. -/
theorem avoids_lower_underscore : Avoids lowerRuns lowerExpansions '_' where
  valid := by decide
  runs := by decide +kernel
  expansions := by decide +kernel

/-! ## Empty images -/

/-- No character is mapped to nothing if no expansion is empty. -/
theorem imageOf_ne_nil {runs : List Run} {expansions : List Expansion}
    (h : ∀ expansion ∈ expansions, expansion.image ≠ []) (c : Char) :
    imageOf runs expansions c ≠ [] := by
  unfold imageOf
  split
  · exact List.cons_ne_nil _ _
  · split
    · rename_i hfind
      obtain ⟨expansion, hexpansion, rfl⟩ := Expansion.exists_of_find?_eq_some hfind
      exact mt List.map_eq_nil_iff.1 (h expansion hexpansion)
    · exact List.cons_ne_nil _ _

theorem upper_ne_nil (c : Char) : upper c ≠ [] :=
  imageOf_ne_nil (by decide +kernel) c

end TypeProjection.Casing
