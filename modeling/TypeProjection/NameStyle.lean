/-
  NameStyle.lean --- the names that projected types and properties get.

  A declared name is cut at its underscores; every piece starts with a capital
  and goes on in lower case.  Types get the prefix of the style in front.
-/
import TypeProjection.Casing.Mapping
import TypeProjection.Text.Split

set_option autoImplicit false

namespace TypeProjection

/-! ## Names as characters -/

/-- A piece with its first character in upper case and all others in lower case.
The lower case of the others does not depend on the first. -/
def capitalizePiece : List Char → List Char
  | [] => []
  | c :: cs => Casing.upper c ++ Casing.lowercase cs

/-- The pieces of a name between its underscores, each capitalized, without anything between them. -/
def joinCapitalized (name : List Char) : List Char :=
  (piecesBetween '_' name).flatMap capitalizePiece

/-- A name without the underscores in front, starting in upper case. -/
def capitalizeLeading (name : List Char) : List Char :=
  match name.dropWhile (· == '_') with
  | [] => []
  | c :: cs => Casing.upper c ++ cs

/-! ## Names -/

/-- The name of a type derived from its declared name. -/
def typeNameOf (name : String) : String :=
  String.ofList (joinCapitalized name.toList)

/-- The name of a property derived from the name of its field. -/
def propertyNameOf (name : String) : String :=
  String.ofList (capitalizeLeading name.toList)

/-- The name of the member that stores a field: marked as a member, without
doubling an underscore in front. -/
def memberNameOf (name : String) : String :=
  if name.toList.head? = some '_' then "m" ++ name else "m_" ++ name

/-- How the names of projected types are built. -/
structure NameStyle where
  /-- What stands in front of every derived type name. -/
  lead : String
  deriving DecidableEq, Repr

/-- What stands in front of derived type names unless something else is asked
for. -/
def defaultLead : String :=
  "Canvas"

instance : Inhabited NameStyle := ⟨⟨defaultLead⟩⟩

namespace NameStyle

/-- A name with the lead of the style in front. -/
def withLead (style : NameStyle) (name : String) : String :=
  style.lead ++ name

/-- The projected name of a type with a given declared name. -/
def projectedTypeName (style : NameStyle) (name : String) : String :=
  style.withLead (typeNameOf name)

end NameStyle

end TypeProjection
