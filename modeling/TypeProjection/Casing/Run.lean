/-
  Casing/Run.lean --- compact tables of characters.

  A property or a mapping of characters is written down as a short list of
  arithmetic progressions, sorted by where they begin.  Looking a character up
  stops at the first entry that begins behind it.
-/

set_option autoImplicit false

namespace TypeProjection.Casing

/-! ## Mappings -/

/-- The characters `first, first + stride, …, last`, all of whose images lie at
the same distance: the image of `first` is `image`. -/
structure Run where
  /-- The first code point of the progression. -/
  first : Nat
  /-- The last code point of the progression. -/
  last : Nat
  /-- The distance between two neighbours of the progression. -/
  stride : Nat
  /-- The image of the first code point. -/
  image : Nat
  deriving DecidableEq, Repr

/-- Whether a code point is on the progression. -/
def Run.covers (r : Run) (n : Nat) : Bool :=
  decide (r.first ≤ n) && decide (n ≤ r.last) && (n - r.first) % r.stride == 0

/-- The image of a code point under the first run that covers it. -/
def Run.find? : List Run → Nat → Option Nat
  | [], _ => none
  | r :: rs, n =>
    if n < r.first then none
    else if r.covers n then some (r.image + (n - r.first))
    else Run.find? rs n

/-- A character whose image has several characters. -/
structure Expansion where
  /-- The code point that is mapped. -/
  source : Nat
  /-- The code points of its image, in order. -/
  image : List Nat
  deriving DecidableEq, Repr

/-- The image of a code point among the expansions. -/
def Expansion.find? : List Expansion → Nat → Option (List Nat)
  | [], _ => none
  | e :: es, n =>
    if n < e.source then none
    else if n = e.source then some e.image
    else Expansion.find? es n

/-! ## Properties -/

/-- The characters from `first` to `last`, both included. -/
structure Span where
  /-- The first code point. -/
  first : Nat
  /-- The last code point. -/
  last : Nat
  deriving DecidableEq, Repr

/-- Whether a code point is in one of the spans of a sorted list. -/
def Span.covers : List Span → Nat → Bool
  | [], _ => false
  | s :: ss, n =>
    if n < s.first then false
    else if n ≤ s.last then true
    else Span.covers ss n

end TypeProjection.Casing
