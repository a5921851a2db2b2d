/-
  Proofs/Storage/Names.lean --- names of files that differ in what they end with.

  A name that is given an ending leads through the same directories as with any
  other ending, to a last step that has the ending.
-/
import TypeProjection.Storage.Path

set_option autoImplicit false

namespace TypeProjection

/-- Only the last piece of a text is longer if characters other than the mark follow. -/
theorem exists_piecesBetween_append (mark : Char) (cs : List Char) :
    ∃ front last, ∀ ending, mark ∉ ending →
      piecesBetween mark (cs ++ ending) = front ++ [last ++ ending] := by
  induction cs with
  | nil => exact ⟨[], [], fun ending h => piecesBetween_of_not_mem h⟩
  | cons c cs ih =>
    obtain ⟨front, last, ih⟩ := ih
    by_cases hmark : c = mark
    · refine ⟨[] :: front, last, fun ending h => ?_⟩
      rw [List.cons_append, piecesBetween, if_pos hmark, ih ending h, List.cons_append]
    · cases front with
      | nil =>
        refine ⟨[], c :: last, fun ending h => ?_⟩
        rw [List.cons_append, piecesBetween, if_neg hmark, ih ending h]
        rfl
      | cons piece front =>
        refine ⟨(c :: piece) :: front, last, fun ending h => ?_⟩
        rw [List.cons_append, piecesBetween, if_neg hmark, ih ending h]
        rfl

namespace Storage

/-- An ending of file names: it has characters, and no slash among them. -/
structure IsEnding (ending : String) : Prop where
  /-- It is not empty. -/
  ne_empty : ending ≠ ""
  /-- It stays in one step. -/
  slash_not_mem : '/' ∉ ending.toList

/-- The steps of a text with an ending are the same for all endings, but for the last one. -/
theorem Path.exists_steps_append (text : String) :
    ∃ front last, ∀ ending, IsEnding ending →
      (Path.mk (text ++ ending)).steps = front ++ [last ++ ending] := by
  obtain ⟨front, last, h⟩ := exists_piecesBetween_append '/' text.toList
  refine ⟨(front.filter (! ·.isEmpty)).map String.ofList, String.ofList last,
    fun ending hending => ?_⟩
  have hlast : (last ++ ending.toList).isEmpty = false := by simp [hending.ne_empty]
  have hkept : [last ++ ending.toList].filter (! ·.isEmpty) = [last ++ ending.toList] := by
    simp only [List.filter_cons, hlast, Bool.not_false, if_true, List.filter_nil]
  rw [steps, stepsIn, String.toList_append, h ending.toList hending.slash_not_mem,
    List.filter_append, hkept, List.map_append, List.map_singleton, String.ofList_append,
    String.ofList_toList]

/-- An ending stays at the end when a name is put behind a directory. -/
theorem joinText_append {ending : String} (h : IsEnding ending) (directory name : String) :
    joinText directory (name ++ ending) = joinText directory name ++ ending := by
  have hroot : (name ++ ending).toList.head? = some '/' ↔ name.toList.head? = some '/' := by
    rw [String.toList_append]
    cases hname : name.toList with
    | nil =>
      simp only [List.nil_append, List.head?_nil, reduceCtorEq, iff_false]
      intro hhead
      exact h.slash_not_mem (List.mem_of_head? hhead)
    | cons c cs => rfl
  simp only [joinText, hroot]
  split
  · rfl
  · split <;> simp only [String.append_assoc]

end Storage

end TypeProjection
