/-
  Proofs/Projection/Listing.lean --- the accessors that the two texts show.

  A listing is read off a generated text alone: its sections are found by the
  lines that open and close an interface or a wrapper, and each line of a section
  is read against the pattern of an accessor or a member.  The lemmas say what
  the lines written for one field are read as.
-/
import TypeProjection.Proofs.Layout.Reading
import TypeProjection.Proofs.Projection.Blocks

set_option autoImplicit false

namespace TypeProjection.Projection

open Layout

/-! ## Listings -/

/-- How an accessor hands out the value of a member. -/
inductive HandOut where
  /-- as a reference that is counted -/
  | counted (member : String)
  /-- as it is stored -/
  | raw (member : String)
  deriving DecidableEq, Repr, Inhabited

/-- The member whose value is handed out. -/
def HandOut.member : HandOut → String
  | .counted member | .raw member => member

/-- The line of an interface that defines how a property is read. -/
def propertyGet : Pattern :=
  ⟨"    [propget] HRESULT ", "([out, retval] ", "* value);"⟩

/-- The line of an interface that defines how a property is written. -/
def propertyPut : Pattern :=
  ⟨"    [propput] HRESULT ", "([in] ", " value);"⟩

/-- The first line of a wrapper: its class and the interface that it implements. -/
def wrapperHead : Pattern :=
  ⟨"class ", " : public Microsoft::WRL::RuntimeClass<", ">"⟩

/-- The interface whose definition begins with a line. -/
def interfaceHead? : String → Option String :=
  inside? "interface " " : IInspectable"

/-- A character that can stand in an identifier: a letter, a digit, an underscore,
or anything beyond the basic characters. -/
def isIdentifierChar (c : Char) : Bool :=
  c.isAlphanum || c == '_' || decide (0x80 ≤ c.toNat)

/-- A text of characters that can stand in an identifier. -/
def IsIdentifier (text : String) : Prop :=
  ∀ c ∈ text.toList, isIdentifierChar c = true

instance : DecidablePred IsIdentifier := fun text =>
  List.decidableBAll (fun c => isIdentifierChar c = true) text.toList

theorem IsIdentifier.not_mem {text : String} (h : IsIdentifier text) {c : Char}
    (hc : isIdentifierChar c = false) : c ∉ text.toList := by
  intro hmem
  simp [h c hmem] at hc

/-! ## Single lines -/

theorem linesAt_propertyLines (f : TypedField) :
    linesAt 1 (propertyLines f) =
      [propertyGet.write f.field.propertyName (f.type.qualifier ++ f.type.parameterName),
        propertyPut.write f.field.propertyName (f.type.qualifier ++ f.type.parameterName)] := by
  simp only [propertyLines, linesAt, lineAt, margin_one, Pattern.write, propertyGet, propertyPut]
  simp [← String.toList_inj]

end TypeProjection.Projection
