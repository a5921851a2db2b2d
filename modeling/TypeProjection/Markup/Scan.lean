/-
  Markup/Scan.lean --- reading characters up to a mark.

  The readers of this module return what is left behind a mark.  Each comes with
  the lemma that the rest is shorter than the input, which is what lets longer
  readers be built from them by recursion on the length of the text.
-/

set_option autoImplicit false

namespace TypeProjection.Markup

/-- The blanks of markup: space, tab, carriage return and line feed. -/
def isBlank (c : Char) : Bool :=
  c == ' ' || c == '\t' || c == '\r' || c == '\n'

/-- The text without the blanks it starts with. -/
def skipBlanks (cs : List Char) : List Char :=
  cs.dropWhile isBlank

/-- The text without the blanks it ends with. -/
def trimEnd (cs : List Char) : List Char :=
  (cs.reverse.dropWhile isBlank).reverse

/-- The text behind a mark that it starts with. -/
def behind? : (mark cs : List Char) → Option (List Char)
  | [], cs => some cs
  | _ :: _, [] => none
  | m :: mark, c :: cs => if m = c then behind? mark cs else none

/-- The text behind the first occurrence of a mark. -/
def behindFirst? (mark : List Char) : List Char → Option (List Char)
  | [] => behind? mark []
  | c :: cs =>
    match behind? mark (c :: cs) with
    | some rest => some rest
    | none => behindFirst? mark cs

/-! ## Lengths -/

theorem skipBlanks_length_le (cs : List Char) : (skipBlanks cs).length ≤ cs.length :=
  (List.dropWhile_sublist _).length_le

theorem length_of_behind? {mark cs rest : List Char} (h : behind? mark cs = some rest) :
    rest.length + mark.length = cs.length := by
  induction mark generalizing cs with
  | nil =>
    obtain rfl : cs = rest := by simpa [behind?] using h
    simp
  | cons m mark ih =>
    cases cs with
    | nil => simp [behind?] at h
    | cons c cs =>
      simp only [behind?] at h
      split at h
      · have := ih h
        simp only [List.length_cons]
        omega
      · exact absurd h (by simp)

theorem length_of_behindFirst? {mark cs rest : List Char}
    (h : behindFirst? mark cs = some rest) : rest.length + mark.length ≤ cs.length := by
  induction cs with
  | nil => exact Nat.le_of_eq (length_of_behind? h)
  | cons c cs ih =>
    simp only [behindFirst?] at h
    split at h
    · rename_i heq
      obtain rfl := Option.some.inj h
      exact Nat.le_of_eq (length_of_behind? heq)
    · have := ih h
      simp only [List.length_cons]
      omega

end TypeProjection.Markup
