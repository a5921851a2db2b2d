/-
  Markup/Piece.lean --- cutting a text into pieces of markup.

  A piece is a tag, of which the content between the brackets is kept, or
  markup that only stands beside elements: a comment, a character data section,
  a document type declaration, a processing instruction.  Of the text between
  pieces only the form of its references is looked at.
-/
import TypeProjection.Markup.Doctype
import TypeProjection.Markup.Fault

set_option autoImplicit false

namespace TypeProjection.Markup

/-- A piece of markup. -/
inductive Piece where
  /-- a tag: what stands between its brackets -/
  | tag (content : List Char)
  /-- markup beside the elements -/
  | aside
  deriving DecidableEq, Repr, Inhabited

/-! ## Text between pieces -/

/-- Passes over text and returns what follows the next opening bracket, or
nothing at the end of the text.  Every reference has to be closed by a
semicolon; `inReference` says that one is open. -/
def skipText (inReference : Bool) : List Char → Except Fault (Option (List Char))
  | [] => if inReference then .error (.form .openReference) else .ok none
  | c :: cs =>
    if c = '<' then
      if inReference then .error (.form .openReference) else .ok (some cs)
    else if c = '&' then
      if inReference then .error (.form .openReference) else skipText true cs
    else skipText (inReference && c != ';') cs

/-! ## Pieces -/

/-- The fault of a tag that is not closed, by the quote that is open at its
end. -/
def openTagFault : Option Char → LexicalFault
  | none => .openTag
  | some '"' => .openDoubleQuote
  | some _ => .openSingleQuote

/-- The content of a tag, up to the first closing bracket outside quotes, and
what follows it; `quote` is the quote that is open. -/
def splitTag (quote : Option Char) : List Char → Except Fault (List Char × List Char)
  | [] => .error (.lexical (openTagFault quote))
  | c :: cs =>
    match quote with
    | some q => (splitTag (if c = q then none else some q) cs).map fun (content, rest) =>
        (c :: content, rest)
    | none =>
      if c = '>' then .ok ([], cs)
      else (splitTag (if c = '"' ∨ c = '\'' then some c else none) cs).map
        fun (content, rest) => (c :: content, rest)

/-- What follows, if it is found, or a fault. -/
def orFault (fault : LexicalFault) : Option (List Char) → Except Fault (Piece × List Char)
  | some rest => .ok (.aside, rest)
  | none => .error (.lexical fault)

/-- Reads a document type declaration from behind `<!`.  Its keyword may be
written in any letter case. -/
def readDoctype (cs : List Char) : Except Fault (Piece × List Char) :=
  if (cs.take 7).map Char.toUpper = "DOCTYPE".toList then
    match behindDoctype? none (cs.drop 7) with
    | none => .error (.lexical .openDoctype)
    | some rest =>
      if (skipBlanks (cs.drop 7)).head? = some '>' then .error (.form .unnamedDoctype)
      else .ok (.aside, rest)
  else .error (.lexical .openDoctype)

/-- Reads the markup that starts with `<!`, from behind these two. -/
def readBang (cs : List Char) : Except Fault (Piece × List Char) :=
  match cs with
  | '[' :: _ =>
    orFault .openCharacterData
      ((behind? "[CDATA[".toList cs).bind (behindFirst? [']', ']', '>']))
  | '-' :: _ =>
    orFault .openComment ((behind? ['-', '-'] cs).bind (behindFirst? ['-', '-', '>']))
  | 'D' :: _ => readDoctype cs
  | 'd' :: _ => readDoctype cs
  | _ => .error (.lexical .unknownMarkup)

/-- Whether a processing instruction, given from behind its opening bracket and
question mark, is the declaration of the document. -/
def isDeclaration (cs : List Char) : Bool :=
  match behind? ['x', 'm', 'l'] cs with
  | none => false
  | some [] => true
  | some (c :: _) => isBlank c || c == '?'

/-- Reads a processing instruction from behind `<?`. -/
def readInstruction (cs : List Char) : Except Fault (Piece × List Char) :=
  if cs.head? = some '>' then .error (.lexical .openInstruction)
  else
    orFault (if isDeclaration cs then .openDeclaration else .openInstruction)
      (behindFirst? ['?', '>'] cs)

/-- Reads a piece of markup from behind its opening bracket. -/
def readPiece (cs : List Char) : Except Fault (Piece × List Char) :=
  match cs with
  | '!' :: rest => readBang rest
  | '?' :: rest => readInstruction rest
  | _ => (splitTag none cs).map fun (content, rest) => (.tag content, rest)

/-! ## Lengths -/

theorem length_of_skipText {inReference : Bool} {cs rest : List Char}
    (h : skipText inReference cs = .ok (some rest)) : rest.length < cs.length := by
  induction cs generalizing inReference with
  | nil => cases inReference <;> simp [skipText] at h
  | cons c cs ih =>
    simp only [skipText] at h
    split at h
    · split at h
      · simp at h
      · obtain rfl : cs = rest := by simpa using h
        exact Nat.lt_succ_self _
    · split at h
      · split at h
        · simp at h
        · exact Nat.lt_succ_of_lt (ih h)
      · exact Nat.lt_succ_of_lt (ih h)

theorem length_of_splitTag {quote : Option Char} {cs content rest : List Char}
    (h : splitTag quote cs = .ok (content, rest)) :
    content.length + rest.length + 1 = cs.length := by
  induction cs generalizing quote content with
  | nil => simp [splitTag] at h
  | cons c cs ih =>
    have step : ∀ q : Option Char,
        (splitTag q cs).map (fun (content, rest) => (c :: content, rest)) =
          .ok (content, rest) → content.length + rest.length + 1 = (c :: cs).length := by
      intro q hq
      cases hs : splitTag q cs with
      | error e => simp [hs, Except.map] at hq
      | ok p =>
        obtain ⟨content', rest'⟩ := p
        obtain ⟨rfl, rfl⟩ : c :: content' = content ∧ rest' = rest := by
          simpa [hs, Except.map] using hq
        have := ih hs
        simp only [List.length_cons]
        omega
    simp only [splitTag] at h
    split at h
    · exact step _ h
    · split at h
      · obtain ⟨rfl, rfl⟩ : [] = content ∧ cs = rest := by simpa using h
        simp
      · exact step _ h

theorem eq_of_orFault {fault : LexicalFault} {found : Option (List Char)} {piece : Piece}
    {rest : List Char} (h : orFault fault found = .ok (piece, rest)) : found = some rest := by
  cases found with
  | none => simp [orFault] at h
  | some r =>
    obtain ⟨-, rfl⟩ : Piece.aside = piece ∧ r = rest := by simpa [orFault] using h
    rfl

theorem length_of_readDoctype {cs rest : List Char} {piece : Piece}
    (h : readDoctype cs = .ok (piece, rest)) : rest.length ≤ cs.length := by
  unfold readDoctype at h
  split at h
  · split at h
    · simp at h
    · rename_i heq
      have h1 := length_of_behindDoctype? heq
      split at h
      · simp at h
      · obtain ⟨-, rfl⟩ : Piece.aside = piece ∧ _ = rest := by simpa using h
        simp only [List.length_drop] at h1
        omega
  · simp at h

theorem length_of_bind_behindFirst? {mark mark' cs rest : List Char}
    (h : (behind? mark cs).bind (behindFirst? mark') = some rest) :
    rest.length ≤ cs.length := by
  obtain ⟨body, hbody, hrest⟩ := Option.bind_eq_some_iff.1 h
  have h1 := length_of_behind? hbody
  have h2 := length_of_behindFirst? hrest
  omega

theorem length_of_readBang {cs rest : List Char} {piece : Piece}
    (h : readBang cs = .ok (piece, rest)) : rest.length ≤ cs.length := by
  unfold readBang at h
  split at h
  · exact length_of_bind_behindFirst? (eq_of_orFault h)
  · exact length_of_bind_behindFirst? (eq_of_orFault h)
  · exact length_of_readDoctype h
  · exact length_of_readDoctype h
  · simp at h

theorem length_of_readPiece {cs rest : List Char} {piece : Piece}
    (h : readPiece cs = .ok (piece, rest)) : rest.length ≤ cs.length := by
  unfold readPiece at h
  split at h
  · exact Nat.le_succ_of_le (length_of_readBang h)
  · unfold readInstruction at h
    split at h
    · simp at h
    · have := length_of_behindFirst? (eq_of_orFault h)
      simp only [List.length_cons]
      omega
  · cases hs : splitTag none cs with
    | error e => simp [hs, Except.map] at h
    | ok p =>
      have := length_of_splitTag hs
      obtain ⟨-, rfl⟩ : Piece.tag p.1 = piece ∧ p.2 = rest := by
        simpa [hs, Except.map] using h
      omega

end TypeProjection.Markup
