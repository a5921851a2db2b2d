/-
  Proofs/Layout/Depth.lean --- the depth of a sheet, and its lines stroke by stroke.

  What goes back at the outermost level is lost, so that the depth is not the difference
  of what went deeper and what went back.  It is that difference above the lowest value it
  had so far, which is what one stroke keeps up (`depth_step`).  Each stroke that writes a
  line adds one to the text, at the depth that the strokes in front of it leave
  (`strokes_verdict`).
-/
import Mathlib.Data.List.Induction
import Mathlib.Order.Bounds.Basic
import TypeProjection.Proofs.Layout.Lines

set_option autoImplicit false

namespace TypeProjection.Layout

/-! ## Depth -/

/-- By how many levels strokes go deeper more than they go back. -/
def netDepth (strokes : List Stroke) : ℤ :=
  strokes.count .indent - strokes.count .unindent

/-- The net depths of strokes up to any point between them, the start included. -/
def netDepths (strokes : List Stroke) : Set ℤ :=
  {n | ∃ before, before <+: strokes ∧ netDepth before = n}

@[simp] theorem netDepth_nil : netDepth [] = 0 := rfl

theorem netDepth_append (first second : List Stroke) :
    netDepth (first ++ second) = netDepth first + netDepth second := by
  simp only [netDepth, List.count_append, Int.natCast_add]
  omega

/-- One more stroke adds one point, behind all others. -/
theorem netDepths_append (strokes : List Stroke) (stroke : Stroke) :
    netDepths (strokes ++ [stroke]) =
      insert (netDepth (strokes ++ [stroke])) (netDepths strokes) := by
  ext n
  simp only [netDepths, List.prefix_concat_iff, Set.mem_ofPred_eq, Set.mem_insert_iff,
    or_and_right, exists_or, exists_eq_left, eq_comm (a := n)]

/-- A stroke changes the depth as it changes the net depth, but not below the outermost
level. -/
theorem depth_step (sheet : Sheet) (stroke : Stroke) :
    ((sheet.step stroke).depth : ℤ) = max 0 (sheet.depth + netDepth [stroke]) := by
  cases stroke with
  | line text | blank => simp [Sheet.step, netDepth]
  | indent =>
    show ((sheet.depth + 1 : Nat) : ℤ) = max 0 ((sheet.depth : ℤ) + 1)
    omega
  | unindent =>
    show ((sheet.depth - 1 : Nat) : ℤ) = max 0 ((sheet.depth : ℤ) + -1)
    omega

/-- The depth of a sheet is the net depth of what was done to it above the lowest one so
far. -/
theorem exists_isLeast_netDepths (strokes : List Stroke) :
    ∃ low, IsLeast (netDepths strokes) low ∧
      ((Sheet.empty.write strokes).depth : ℤ) = netDepth strokes - low := by
  induction strokes using List.reverseRecOn with
  | nil =>
    have hstart : netDepths [] = {0} := by
      ext n
      simp [netDepths, eq_comm]
    exact ⟨0, hstart ▸ isLeast_singleton, rfl⟩
  | append_singleton strokes stroke ih =>
    obtain ⟨low, hlow, hdepth⟩ := ih
    refine ⟨min (netDepth (strokes ++ [stroke])) low, ?_, ?_⟩
    · rw [netDepths_append]
      exact hlow.insert _
    · rw [Sheet.write_append, Sheet.write_cons, Sheet.write_nil, depth_step, hdepth,
        netDepth_append]
      omega

/-! ## Lines -/

/-- The text of the line that a stroke writes, if it writes one. -/
def Stroke.lineText? : Stroke → Option String
  | .line text => some text
  | .blank => some ""
  | .indent | .unindent => none

theorem length_linesAt (depth : Nat) (strokes : List Stroke) :
    (linesAt depth strokes).length = (strokes.filterMap Stroke.lineText?).length := by
  induction strokes generalizing depth with
  | nil => rfl
  | cons stroke strokes ih =>
    cases stroke <;>
      simp only [linesAt, List.filterMap_cons, Stroke.lineText?, List.length_cons, ih]

/-- A stroke that writes a line writes it in front of those of the strokes behind it. -/
theorem linesAt_cons_of_lineText? {stroke : Stroke} {text : String}
    (h : stroke.lineText? = some text) (depth : Nat) (strokes : List Stroke) :
    linesAt depth (stroke :: strokes) = lineAt depth text :: linesAt depth strokes := by
  cases stroke <;> cases h <;> rfl

/-- The line of a stroke stands behind those of the strokes in front, at the depth that
they leave. -/
theorem getElem?_linesAt {before : List Stroke} {stroke : Stroke} {text : String}
    (h : stroke.lineText? = some text) (depth : Nat) (after : List Stroke) :
    (linesAt depth (before ++ stroke :: after))[(before.filterMap Stroke.lineText?).length]? =
      some (lineAt (depthAfter depth before) text) := by
  rw [linesAt_append, linesAt_cons_of_lineText? h, ← length_linesAt depth,
    List.getElem?_append_right (Nat.le_refl _), Nat.sub_self, List.getElem?_cons_zero]

theorem depth_write (strokes : List Stroke) :
    (Sheet.empty.write strokes).depth = depthAfter 0 strokes :=
  congrArg Sheet.depth (write_eq _ _)

theorem text_write (strokes : List Stroke) :
    (Sheet.empty.write strokes).text = unlines (linesAt 0 strokes) := by
  rw [write_eq]
  exact String.empty_append

/-! ## What strokes do to a new sheet -/

/-- Whatever is done to a new sheet, its depth is the net depth of all strokes less the
lowest net depth up to any point between them, the start included.  At any point the text
begins with what it was before.  If no line that is written has a line end inside, the text
has one line for every stroke that writes one, in their order, and nothing behind the last
line end; the line is the text of the stroke behind four spaces for every level of the depth
that the strokes in front leave, and nothing at all if that text is empty. -/
theorem strokes_verdict (strokes : List Stroke) :
    (∃ low, IsLeast (netDepths strokes) low ∧
      ((Sheet.empty.write strokes).depth : ℤ) = netDepth strokes - low) ∧
    (∀ before after, strokes = before ++ after → ∃ added,
      (Sheet.empty.write strokes).text = (Sheet.empty.write before).text ++ added) ∧
    (OneLines strokes → ∃ lines,
      linesOf (Sheet.empty.write strokes).text = lines ++ [""] ∧
      lines.length = (strokes.filterMap Stroke.lineText?).length ∧
      ∀ before stroke after text, strokes = before ++ stroke :: after →
        stroke.lineText? = some text →
        lines[(before.filterMap Stroke.lineText?).length]? =
          some (if text = "" then ""
            else String.ofList (List.replicate (4 * (Sheet.empty.write before).depth) ' ') ++
              text)) := by
  refine ⟨exists_isLeast_netDepths strokes, ?_, fun hlines => ?_⟩
  · rintro before after rfl
    refine ⟨unlines (linesAt (Sheet.empty.write before).depth after), ?_⟩
    rw [Sheet.write_append, write_eq (Sheet.empty.write before)]
  · refine ⟨linesAt 0 strokes, ?_, length_linesAt 0 strokes, ?_⟩
    · rw [text_write, linesOf_unlines (oneLine_of_mem_linesAt hlines 0)]
    · rintro before stroke after text rfl htext
      rw [getElem?_linesAt htext, depth_write]
      rfl

/-- Strokes that go back at the outermost level first. -/
def sunkenStrokes : List Stroke :=
  [.unindent, .indent, .line "x"]

/-- What goes back at the outermost level is not made up for. -/
theorem strokes_verdict_sunken :
    netDepth sunkenStrokes = 0 ∧ IsLeast (netDepths sunkenStrokes) (-1) ∧
      OneLines sunkenStrokes ∧ ∃ lines,
        linesOf (Sheet.empty.write sunkenStrokes).text = lines ++ [""] ∧
          lines[0]? = some "    x" := by
  obtain ⟨⟨low, hlow, hdepth⟩, -, hlines⟩ := strokes_verdict sunkenStrokes
  have hone : OneLines sunkenStrokes := by simp [sunkenStrokes, Stroke.OneLine, OneLine]
  obtain ⟨lines, htext, -, hline⟩ := hlines hone
  have hlow' : (1 : ℤ) = 0 - low := hdepth
  obtain rfl : low = -1 := by omega
  exact ⟨rfl, hlow, hone, lines, htext, hline [.unindent, .indent] (.line "x") [] "x" rfl rfl⟩

end TypeProjection.Layout
