/-
  Markup/Attribute.lean --- the attributes of a tag.

  Values are raw: nothing in them is decoded.  An attribute that is malformed,
  or whose key was seen before in the tag, is passed over, and reading goes on
  at the next blank.
-/
import TypeProjection.Markup.Scan

set_option autoImplicit false

namespace TypeProjection.Markup

/-- A key and its raw value. -/
structure Attribute where
  /-- The key, as written. -/
  key : String
  /-- What stands between the quotes, as written. -/
  value : String
  deriving DecidableEq, Repr, Inhabited

/-! ## Keys -/

/-- Whether a character ends the key of an attribute. -/
def endsKey (c : Char) : Bool :=
  c == '=' || isBlank c

/-- The first key of a text, and what follows it.  The first character belongs
to the key whatever it is. -/
def splitKey : List Char → List Char × List Char
  | [] => ([], [])
  | c :: cs => (c :: cs.takeWhile (!endsKey ·), cs.dropWhile (!endsKey ·))

/-- The text from the next blank on: where reading goes on behind something
that is passed over. -/
def nextBlank (cs : List Char) : List Char :=
  cs.dropWhile (!isBlank ·)

/-- A value in quotes: what stands before the closing quote and what follows
it. -/
def splitValue (quote : Char) : List Char → Option (List Char × List Char)
  | [] => none
  | c :: cs =>
    if c = quote then some ([], cs)
    else (splitValue quote cs).map fun (value, rest) => (c :: value, rest)

theorem splitKey_snd_length_lt (c : Char) (cs : List Char) :
    (splitKey (c :: cs)).2.length < (c :: cs).length :=
  Nat.lt_succ_of_le (List.dropWhile_sublist _).length_le

theorem nextBlank_length_le (cs : List Char) : (nextBlank cs).length ≤ cs.length :=
  (List.dropWhile_sublist _).length_le

theorem length_of_splitValue {quote : Char} {cs value rest : List Char}
    (h : splitValue quote cs = some (value, rest)) :
    rest.length + value.length + 1 = cs.length := by
  induction cs generalizing value with
  | nil => simp [splitValue] at h
  | cons c cs ih =>
    simp only [splitValue] at h
    split at h
    · obtain ⟨rfl, rfl⟩ : [] = value ∧ cs = rest := by simpa using h
      simp
    · obtain ⟨⟨value', rest'⟩, h', heq⟩ := Option.map_eq_some_iff.1 h
      obtain ⟨rfl, rfl⟩ : c :: value' = value ∧ rest' = rest := by simpa using heq
      have := ih h'
      simp only [List.length_cons]
      omega

/-- Reading a key moves on: what stands at or behind the sign after it is
shorter than the text the key was read from. -/
theorem length_lt_of_key {text cs after : List Char} {c d : Char}
    (htext : skipBlanks text = c :: cs)
    (hafter : skipBlanks (splitKey (c :: cs)).2 = d :: after) :
    (d :: after).length < text.length := by
  have h1 := skipBlanks_length_le text
  have h2 := splitKey_snd_length_lt c cs
  have h3 := skipBlanks_length_le (splitKey (c :: cs)).2
  rw [htext] at h1
  rw [hafter] at h3
  omega

/-! ## Attributes -/

set_option linter.unusedVariables false in
/-- The attributes of a text in which the keys `seen` were read before.

A key without a sign is passed over; so is the rest of an attribute up to the
next blank if its key was seen before or its value is not in quotes.  Reading
ends at the first thing that the end of the text cuts off. -/
def readAttributes (seen : List String) (text : List Char) : List Attribute :=
  match htext : skipBlanks text with
  | [] => []
  | c :: cs =>
    match hafter : skipBlanks (splitKey (c :: cs)).2 with
    | [] => []
    | d :: after =>
      let key := String.ofList (splitKey (c :: cs)).1
      if d ≠ '=' then readAttributes seen (d :: after)
      else if key ∈ seen then readAttributes seen (nextBlank (d :: after))
      else
        match hvalue : skipBlanks after with
        | [] => []
        | q :: rest =>
          if q = '"' ∨ q = '\'' then
            match hsplit : splitValue q rest with
            | none => []
            | some (value, behind) =>
              ⟨key, String.ofList value⟩ :: readAttributes (key :: seen) behind
          else readAttributes (key :: seen) (nextBlank (q :: rest))
termination_by text.length
decreasing_by
  · exact length_lt_of_key htext hafter
  · exact Nat.lt_of_le_of_lt (nextBlank_length_le _) (length_lt_of_key htext hafter)
  all_goals
    have h1 := length_lt_of_key htext hafter
    have h2 := skipBlanks_length_le after
    rw [hvalue] at h2
    simp only [List.length_cons] at h1 h2
  · have h3 := length_of_splitValue hsplit
    omega
  · have h3 := nextBlank_length_le (q :: rest)
    simp only [List.length_cons] at h3
    omega

/-- The attributes of a text, one step at a time. -/
theorem readAttributes_eq (seen : List String) (text : List Char) :
    readAttributes seen text =
      match skipBlanks text with
      | [] => []
      | c :: cs =>
        match skipBlanks (splitKey (c :: cs)).2 with
        | [] => []
        | d :: after =>
          let key := String.ofList (splitKey (c :: cs)).1
          if d ≠ '=' then readAttributes seen (d :: after)
          else if key ∈ seen then readAttributes seen (nextBlank (d :: after))
          else
            match skipBlanks after with
            | [] => []
            | q :: rest =>
              if q = '"' ∨ q = '\'' then
                match splitValue q rest with
                | none => []
                | some (value, behind) =>
                  ⟨key, String.ofList value⟩ :: readAttributes (key :: seen) behind
              else readAttributes (key :: seen) (nextBlank (q :: rest)) := by
  rw [readAttributes]
  split
  · simp_all
  · rename_i c cs htext
    rw [htext]
    dsimp only
    split
    · simp_all
    · rename_i d after hafter
      rw [hafter]
      dsimp only
      split
      · rfl
      · split
        · rfl
        · split
          · simp_all
          · rename_i q rest hvalue
            rw [hvalue]
            dsimp only
            split
            · split <;> simp_all
            · rfl

end TypeProjection.Markup
