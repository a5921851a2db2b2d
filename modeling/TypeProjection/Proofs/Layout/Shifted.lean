/-
  Proofs/Layout/Shifted.lean --- what is written deeper is written further to the right.

  Level strokes never go back behind the level at which they begin, so that they are not
  stopped at the outermost one.  Hence they write the same lines at every depth, with the
  margin of that depth in front (`linesAt_add_of_level`).  As the texts of strokes end no
  lines, this can be read off the written text (`write_of_level`).
-/
import TypeProjection.Proofs.Layout.Lines

set_option autoImplicit false

namespace TypeProjection.Layout

/-! ## Lines -/

theorem margin_add (outer depth : Nat) : margin (outer + depth) = margin outer ++ margin depth := by
  unfold margin
  rw [Nat.mul_add, ← List.replicate_append_replicate, String.ofList_append]

/-- To stand at a depth is to stand further to the right at a smaller one. -/
theorem lineAt_add (outer depth : Nat) (text : String) :
    lineAt (outer + depth) text = lineAt outer (lineAt depth text) := by
  by_cases htext : text = ""
  · subst htext
    rfl
  · have hshown : margin depth ++ text ≠ "" := by
      intro hempty
      exact htext (String.append_eq_empty_iff.1 hempty).2
    rw [lineAt_of_ne htext, lineAt_of_ne htext, lineAt_of_ne hshown, margin_add,
      String.append_assoc]

/-- Level strokes write the same lines at every depth, further to the right. -/
theorem linesAt_add_of_level {strokes : List Stroke} (h : Level strokes) (outer depth : Nat) :
    linesAt (outer + depth) strokes = (linesAt depth strokes).map (lineAt outer) := by
  induction h generalizing depth with
  | nil => rfl
  | line text => exact congrArg (fun line => [line]) (lineAt_add outer depth text)
  | blank => rfl
  | nested h ih => rw [linesAt_nested h, linesAt_nested h, Nat.add_assoc, ih]
  | append h h' ih ih' =>
    rw [linesAt_append_of_level h, linesAt_append_of_level h, ih, ih', List.map_append]

/-! ## Texts -/

/-- A text with four spaces for every level in front of each line that is not empty. -/
def shifted (depth : Nat) (text : String) : String :=
  "\n".intercalate ((linesOf text).map fun line =>
    if line = "" then "" else String.ofList (List.replicate (4 * depth) ' ') ++ line)

theorem shifted_eq (depth : Nat) (text : String) :
    shifted depth text = "\n".intercalate ((linesOf text).map (lineAt depth)) :=
  rfl

theorem intercalate_append_empty (lines : List String) :
    "\n".intercalate (lines ++ [""]) = unlines lines := by
  induction lines with
  | nil => simp
  | cons line lines ih =>
    rw [unlines_cons, ← ih]
    cases lines <;> simp

/-- Lines that were written are pushed to the right one by one. -/
theorem shifted_unlines {lines : List String} (h : ∀ line ∈ lines, OneLine line) (depth : Nat) :
    shifted depth (unlines lines) = unlines (lines.map (lineAt depth)) := by
  have hend : lineAt depth "" = "" := rfl
  rw [shifted_eq, linesOf_unlines h, List.map_append, List.map_singleton, hend,
    intercalate_append_empty]

/-- Level strokes leave the depth as it was, and add to the text what they write on an empty
sheet, pushed to the right. -/
theorem write_of_level {strokes : List Stroke} (h : Level strokes) (hlines : OneLines strokes)
    (sheet : Sheet) :
    sheet.write strokes =
      ⟨sheet.text ++ shifted sheet.depth (Sheet.empty.write strokes).text, sheet.depth⟩ := by
  have hfresh : (Sheet.empty.write strokes).text = unlines (linesAt 0 strokes) := by
    rw [write_eq]
    exact String.empty_append
  rw [write_eq, depthAfter_of_level h, hfresh, shifted_unlines (oneLine_of_mem_linesAt hlines 0),
    ← linesAt_add_of_level h, Nat.add_zero]

end TypeProjection.Layout
