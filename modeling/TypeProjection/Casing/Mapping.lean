/-
  Casing/Mapping.lean --- upper and lower case of texts.

  Upper case goes character by character.  Lower case does too, but for the
  capital sigma, whose lower case has a form of its own at the end of a word.
-/
import TypeProjection.Casing.Upper
import TypeProjection.Casing.Lower
import TypeProjection.Casing.Cased
import TypeProjection.Casing.Ignorable

set_option autoImplicit false

namespace TypeProjection.Casing

/-! ## Single characters -/

/-- The image of a character under a table of runs and one of expansions; a
character in neither is its own image. -/
def imageOf (runs : List Run) (expansions : List Expansion) (c : Char) : List Char :=
  match Run.find? runs c.toNat with
  | some n => [Char.ofNat n]
  | none =>
    match Expansion.find? expansions c.toNat with
    | some image => image.map Char.ofNat
    | none => [c]

/-- The upper case of a character, of one to three characters. -/
def upper (c : Char) : List Char :=
  imageOf upperRuns upperExpansions c

/-- The lower case of a character on its own, of one or two characters. -/
def lower (c : Char) : List Char :=
  imageOf lowerRuns lowerExpansions c

/-- Whether a character is a letter with case. -/
def isCased (c : Char) : Bool :=
  Span.covers casedSpans c.toNat

/-- Whether a rule about neighbouring letters looks through a character. -/
def isIgnorable (c : Char) : Bool :=
  Span.covers ignorableSpans c.toNat

/-! ## Texts -/

/-- The upper case of a text. -/
def uppercase (cs : List Char) : List Char :=
  cs.flatMap upper

/-- Whether the first character that is not looked through has case. -/
def meetsCased (cs : List Char) : Bool :=
  match cs.dropWhile isIgnorable with
  | [] => false
  | c :: _ => isCased c

/-- The lower case of the capital sigma between two texts, the one in front
given from its end: the final form behind a letter and before none. -/
def lowerSigma (before after : List Char) : Char :=
  if meetsCased before && !meetsCased after then 'ς' else 'σ'

/-- The lower case of a text that stands behind another one, which is given
from its end. -/
def lowercaseBehind (before : List Char) : List Char → List Char
  | [] => []
  | c :: cs =>
    (if c = 'Σ' then [lowerSigma before cs] else lower c) ++ lowercaseBehind (c :: before) cs

/-- The lower case of a text. -/
def lowercase (cs : List Char) : List Char :=
  lowercaseBehind [] cs

@[simp] theorem uppercase_nil : uppercase [] = [] := rfl

@[simp] theorem uppercase_append (as bs : List Char) :
    uppercase (as ++ bs) = uppercase as ++ uppercase bs := by
  simp [uppercase]

@[simp] theorem lowercase_nil : lowercase [] = [] := rfl

end TypeProjection.Casing
