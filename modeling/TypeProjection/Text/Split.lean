/-
  Text/Split.lean --- cutting a text at every occurrence of a character.

  The pieces are what stands between the occurrences, so there is one more piece
  than there are occurrences, and pieces may be empty.
-/

set_option autoImplicit false

namespace TypeProjection

/-- The pieces of a text between the occurrences of a character. -/
def piecesBetween (mark : Char) : List Char → List (List Char)
  | [] => [[]]
  | c :: cs =>
    if c = mark then [] :: piecesBetween mark cs
    else
      match piecesBetween mark cs with
      | [] => [[c]]
      | piece :: rest => (c :: piece) :: rest

theorem piecesBetween_ne_nil (mark : Char) (cs : List Char) : piecesBetween mark cs ≠ [] := by
  cases cs with
  | nil => simp [piecesBetween]
  | cons c cs =>
    simp only [piecesBetween]
    split
    · simp
    · split <;> simp

/-- A text without the character is its only piece. -/
theorem piecesBetween_of_not_mem {mark : Char} {cs : List Char} (h : mark ∉ cs) :
    piecesBetween mark cs = [cs] := by
  induction cs with
  | nil => rfl
  | cons c cs ih =>
    have hc : c ≠ mark := fun hc => h (hc ▸ List.mem_cons_self)
    simp [piecesBetween, hc, ih fun hcs => h (List.mem_cons_of_mem _ hcs)]

/-- Two texts with the character between them have the pieces of both. -/
theorem piecesBetween_append (mark : Char) (a b : List Char) :
    piecesBetween mark (a ++ mark :: b) = piecesBetween mark a ++ piecesBetween mark b := by
  induction a with
  | nil => simp [piecesBetween]
  | cons c a ih =>
    by_cases h : c = mark
    · simp [piecesBetween, h, ih]
    · simp only [List.cons_append, piecesBetween, h, if_false, ih]
      cases hp : piecesBetween mark a with
      | nil => exact absurd hp (piecesBetween_ne_nil mark a)
      | cons p ps => simp

/-- No piece has the character in it. -/
theorem not_mem_of_mem_piecesBetween {mark : Char} {cs piece : List Char}
    (h : piece ∈ piecesBetween mark cs) : mark ∉ piece := by
  induction cs generalizing piece with
  | nil =>
    obtain rfl : piece = [] := by simpa [piecesBetween] using h
    simp
  | cons c cs ih =>
    simp only [piecesBetween] at h
    split at h
    · rcases List.mem_cons.1 h with rfl | h
      · simp
      · exact ih h
    · rename_i hne
      split at h
      · obtain rfl : piece = [c] := by simpa using h
        simpa using Ne.symm hne
      · rename_i p ps heq
        rcases List.mem_cons.1 h with rfl | h
        · simpa [Ne.symm hne] using ih (heq ▸ List.mem_cons_self)
        · exact ih (heq ▸ List.mem_cons_of_mem _ h)

/-- All pieces are empty exactly if the text has no other character. -/
theorem forall_piecesBetween_eq_nil_iff {mark : Char} {cs : List Char} :
    (∀ piece ∈ piecesBetween mark cs, piece = []) ↔ ∀ c ∈ cs, c = mark := by
  induction cs with
  | nil => simp [piecesBetween]
  | cons c cs ih =>
    simp only [piecesBetween]
    split
    · rename_i hc
      simp [hc, ih]
    · rename_i hc
      refine iff_of_false (fun hall => ?_) fun hall => hc (hall c List.mem_cons_self)
      split at hall <;> exact List.cons_ne_nil _ _ (hall _ List.mem_cons_self)

end TypeProjection
