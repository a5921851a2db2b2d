/-
  Markup/Doctype.lean --- where a document type declaration ends.

  Outside its internal subset quoted texts are passed over as a whole, and a
  bracket ends the declaration.  The subset is a list of declarations, each of
  which has an end of its own; what it declares is of no interest here.
-/
import TypeProjection.Markup.Scan

set_option autoImplicit false

namespace TypeProjection.Markup

/-- The text behind the next closing bracket that is not in quotes; `quote` is
the quote that is open. -/
def behindUnquoted? (quote : Option Char) : List Char → Option (List Char)
  | [] => none
  | c :: cs =>
    match quote with
    | some q => behindUnquoted? (if c = q then none else some q) cs
    | none =>
      if c = '>' then some cs
      else behindUnquoted? (if c = '"' ∨ c = '\'' then some c else none) cs

/-- Whether the text in front of a declaration's own name starts one in which
quotes protect the closing bracket. -/
def protectsBrackets (cs : List Char) : Bool :=
  ["!ENTITY", "!ATTLIST", "!NOTATION"].any fun name => (behind? name.toList cs).isSome

/-- The text behind one declaration of the subset, given from behind its opening
bracket. -/
def behindDeclaration? (cs : List Char) : Option (List Char) :=
  match behind? ['?'] cs with
  | some body => behindFirst? ['?', '>'] body
  | none =>
    match behind? ['!', '-', '-'] cs with
    | some body => behindFirst? ['-', '-', '>'] body
    | none =>
      if protectsBrackets cs then behindUnquoted? none cs
      else behindFirst? ['>'] cs

theorem length_of_behindUnquoted? {quote : Option Char} {cs rest : List Char}
    (h : behindUnquoted? quote cs = some rest) : rest.length < cs.length := by
  induction cs generalizing quote with
  | nil => simp [behindUnquoted?] at h
  | cons c cs ih =>
    simp only [behindUnquoted?] at h
    split at h
    · exact Nat.lt_succ_of_lt (ih h)
    · split at h
      · obtain rfl := Option.some.inj h
        exact Nat.lt_succ_self _
      · exact Nat.lt_succ_of_lt (ih h)

theorem length_of_behindDeclaration? {cs rest : List Char}
    (h : behindDeclaration? cs = some rest) : rest.length ≤ cs.length := by
  unfold behindDeclaration? at h
  split at h
  · rename_i body hbody
    have h1 := length_of_behind? hbody
    have h2 := length_of_behindFirst? h
    omega
  · split at h
    · rename_i body hbody
      have h1 := length_of_behind? hbody
      have h2 := length_of_behindFirst? h
      omega
    · split at h
      · exact Nat.le_of_lt (length_of_behindUnquoted? h)
      · have h2 := length_of_behindFirst? h
        omega

set_option linter.unusedVariables false in
/-- The text behind the bracket that closes the internal subset. -/
def behindSubset? : List Char → Option (List Char)
  | [] => none
  | c :: cs =>
    if c = ']' then some cs
    else if c = '<' then
      match hrest : behindDeclaration? cs with
      | none => none
      | some rest => behindSubset? rest
    else behindSubset? cs
termination_by cs => cs.length
decreasing_by
  · exact Nat.lt_succ_of_le (length_of_behindDeclaration? hrest)
  · exact Nat.lt_succ_self _

/-- In the subset a declaration is passed over as a whole. -/
theorem behindSubset?_declaration (cs : List Char) :
    behindSubset? ('<' :: cs) = (behindDeclaration? cs).bind behindSubset? := by
  rw [behindSubset?]
  simp only [Char.reduceEq, if_false, if_true]
  split <;> simp_all

/-- The text behind a document type declaration, given from behind its keyword;
`quote` is the quote that is open. -/
def behindDoctype? (quote : Option Char) : List Char → Option (List Char)
  | [] => none
  | c :: cs =>
    match quote with
    | some q => behindDoctype? (if c = q then none else some q) cs
    | none =>
      if c = '>' then some cs
      else if c = '[' then (behindSubset? cs).bind (behindFirst? ['>'])
      else behindDoctype? (if c = '"' ∨ c = '\'' then some c else none) cs

theorem length_of_behindSubset? {cs rest : List Char}
    (h : behindSubset? cs = some rest) : rest.length < cs.length := by
  fun_induction behindSubset? cs with
  | case1 => simp at h
  | case2 cs => exact Nat.lt_succ_of_le (Nat.le_of_eq (congrArg List.length (Option.some.inj h).symm))
  | case3 => simp at h
  | case4 cs rest' hrest _ ih =>
    have h1 := ih h
    have h2 := length_of_behindDeclaration? hrest
    simp only [List.length_cons]
    omega
  | case5 c cs _ _ ih => exact Nat.lt_succ_of_lt (ih h)

theorem length_of_behindDoctype? {quote : Option Char} {cs rest : List Char}
    (h : behindDoctype? quote cs = some rest) : rest.length < cs.length := by
  induction cs generalizing quote with
  | nil => simp [behindDoctype?] at h
  | cons c cs ih =>
    simp only [behindDoctype?] at h
    split at h
    · exact Nat.lt_succ_of_lt (ih h)
    · split at h
      · obtain rfl := Option.some.inj h
        exact Nat.lt_succ_self _
      · split at h
        · obtain ⟨inner, hinner, hrest⟩ := Option.bind_eq_some_iff.1 h
          have h1 := length_of_behindSubset? hinner
          have h2 := length_of_behindFirst? hrest
          simp only [List.length_cons]
          omega
        · exact Nat.lt_succ_of_lt (ih h)

end TypeProjection.Markup
