/-
  Proofs/Layout/Breaks.lean --- how many lines a text has.

  A text has one line more than it has line ends.  What is written may have line ends of
  its own inside, so the lines of a text are counted here by its line ends, and those of
  written lines are the lines of each of them (`linesOf_unlines_eq`).
-/
import Mathlib.Data.List.Forall2
import TypeProjection.Proofs.Layout.Lines

set_option autoImplicit false

namespace TypeProjection.Layout

/-! ## Texts -/

/-- The number of line ends in a text. -/
def breaks (text : String) : Nat :=
  text.toList.count '\n'

@[simp] theorem breaks_append (a b : String) : breaks (a ++ b) = breaks a + breaks b := by
  simp [breaks]

theorem breaks_of_oneLine {text : String} (h : OneLine text) : breaks text = 0 :=
  List.count_eq_zero.2 h

/-- A text has one line more than it has line ends. -/
theorem length_linesOf (text : String) : (linesOf text).length = breaks text + 1 := by
  rw [linesOf, List.length_map, breaks]
  induction text.toList with
  | nil => rfl
  | cons c cs ih =>
    rw [piecesBetween, List.count_cons]
    by_cases hc : c = '\n'
    · simp [hc, ih]
    · cases hpieces : piecesBetween '\n' cs with
      | nil => exact absurd hpieces (piecesBetween_ne_nil _ cs)
      | cons piece pieces => simpa [hc, hpieces] using ih

/-- The lines of a text go on with those of the text behind a line end. -/
theorem linesOf_append_end (first rest : String) :
    linesOf (first ++ "\n" ++ rest) = linesOf first ++ linesOf rest := by
  have hsplit : (first ++ "\n" ++ rest).toList = first.toList ++ '\n' :: rest.toList := by simp
  rw [linesOf, hsplit, piecesBetween_append, List.map_append]
  rfl

/-- Written lines have the lines of each of them, and behind the last line end there is
nothing. -/
theorem linesOf_unlines_eq (lines : List String) :
    linesOf (unlines lines) = lines.flatMap linesOf ++ [""] := by
  induction lines with
  | nil => rfl
  | cons line lines ih =>
    rw [unlines_cons, linesOf_append_end, ih, List.flatMap_cons, List.append_assoc]

/-- A text without a line end stands in front of the first line of what follows it. -/
theorem linesOf_append_of_oneLine {lead : String} (h : OneLine lead) (rest : String) :
    ∃ first others, linesOf rest = first :: others ∧
      linesOf (lead ++ rest) = (lead ++ first) :: others := by
  have hpieces : ∀ cs : List Char, '\n' ∉ cs → ∃ piece pieces,
      piecesBetween '\n' rest.toList = piece :: pieces ∧
        piecesBetween '\n' (cs ++ rest.toList) = (cs ++ piece) :: pieces := by
    intro cs hcs
    induction cs with
    | nil =>
      obtain ⟨piece, pieces, heq⟩ :=
        List.exists_cons_of_ne_nil (piecesBetween_ne_nil '\n' rest.toList)
      exact ⟨piece, pieces, heq, heq⟩
    | cons c cs ih =>
      obtain ⟨piece, pieces, heq, hfollow⟩ := ih fun hmem => hcs (List.mem_cons_of_mem _ hmem)
      have hc : c ≠ '\n' := fun hc => hcs (hc ▸ List.mem_cons_self)
      exact ⟨piece, pieces, heq, by simp [piecesBetween, hc, hfollow]⟩
  obtain ⟨piece, pieces, heq, hfollow⟩ := hpieces lead.toList h
  refine ⟨String.ofList piece, pieces.map String.ofList, by rw [linesOf, heq, List.map_cons], ?_⟩
  have hfirst : String.ofList (lead.toList ++ piece) = lead ++ String.ofList piece :=
    String.toList_inj.1 (by simp)
  rw [linesOf, String.toList_append, hfollow, List.map_cons, hfirst]

/-! ## Strokes -/

/-- The number of line ends that strokes write. -/
def strokeBreaks : List Stroke → Nat
  | [] => 0
  | .line text :: strokes => breaks text + 1 + strokeBreaks strokes
  | .blank :: strokes => 1 + strokeBreaks strokes
  | .indent :: strokes | .unindent :: strokes => strokeBreaks strokes

@[simp] theorem strokeBreaks_append (first second : List Stroke) :
    strokeBreaks (first ++ second) = strokeBreaks first + strokeBreaks second := by
  induction first with
  | nil => simp [strokeBreaks]
  | cons stroke first ih => cases stroke <;> simp only [List.cons_append, strokeBreaks, ih,
      Nat.add_assoc]

@[simp] theorem strokeBreaks_nested (strokes : List Stroke) :
    strokeBreaks (nested strokes) = strokeBreaks strokes := by
  simp [nested, strokeBreaks]

@[simp] theorem strokeBreaks_braced (strokes : List Stroke) (closing : String) :
    strokeBreaks (braced strokes closing) = 2 + strokeBreaks strokes + breaks closing := by
  have hopen : breaks "\x7b" = 0 := by decide
  simp only [braced, List.cons_append, strokeBreaks, strokeBreaks_append, strokeBreaks_nested,
    hopen]
  omega

section Congruence

variable {α β : Type} {R : α → β → Prop} {f : α → List Stroke} {g : β → List Stroke}
  {xs : List α} {ys : List β} (h : List.Forall₂ R xs ys)
  (hfg : ∀ a b, R a b → strokeBreaks (f a) = strokeBreaks (g b))

include h hfg

theorem strokeBreaks_flatMap_congr : strokeBreaks (xs.flatMap f) = strokeBreaks (ys.flatMap g) := by
  induction h with
  | nil => rfl
  | cons hab _ ih =>
    rw [List.flatMap_cons, List.flatMap_cons, strokeBreaks_append, strokeBreaks_append, ih,
      hfg _ _ hab]

theorem strokeBreaks_intercalate_congr (separator : List Stroke) :
    strokeBreaks (List.intercalate separator (xs.map f)) =
      strokeBreaks (List.intercalate separator (ys.map g)) := by
  induction h with
  | nil => rfl
  | cons hab hrest ih =>
    cases hrest with
    | nil => simpa using hfg _ _ hab
    | cons =>
      simp only [List.map_cons, List.intercalate_cons_cons, strokeBreaks_append,
        hfg _ _ hab] at ih ⊢
      rw [ih]

end Congruence

/-- A sheet after strokes has the line ends that they write besides those it had. -/
theorem breaks_write (sheet : Sheet) (strokes : List Stroke) :
    breaks (sheet.write strokes).text = breaks sheet.text + strokeBreaks strokes := by
  have hend : breaks "\n" = 1 := by decide
  have hline : ∀ depth text, breaks (indentedLine depth text) = breaks text + 1 := by
    intro depth text
    have hmargin : breaks (margin depth) = 0 :=
      breaks_of_oneLine (by simp [OneLine, margin, List.mem_replicate])
    unfold indentedLine
    split
    · rename_i hempty
      rw [hempty, hend]
      rfl
    · rw [breaks_append, breaks_append, hmargin, hend, Nat.zero_add]
  induction strokes generalizing sheet with
  | nil => rfl
  | cons stroke strokes ih =>
    rw [Sheet.write_cons, ih]
    cases stroke with
    | line text => simp only [Sheet.step, strokeBreaks, breaks_append, hline, Nat.add_assoc]
    | blank => simp only [Sheet.step, strokeBreaks, breaks_append, hend, Nat.add_assoc]
    | indent | unindent => rfl

end TypeProjection.Layout
