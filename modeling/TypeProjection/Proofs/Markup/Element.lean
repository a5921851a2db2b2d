/-
  Proofs/Markup/Element.lean --- element trees and their written forms.

  An element has a tag and elements inside it.  It can be written in many ways:
  an element without content as one tag or as two, attributes in any order and in
  either kind of quotes, blanks inside tags, and blanks, comments and instructions
  between elements.  The written forms stand here as a relation, apart from any
  reader.
-/
import Mathlib.Tactic.MkIffOfInductiveProp
import TypeProjection.Markup.Event

set_option autoImplicit false

namespace TypeProjection.Markup

/-- An element: its tag and the elements directly inside it, in order. -/
structure Element where
  /-- The name and the attributes. -/
  tag : Tag
  /-- The elements directly inside. -/
  children : List Element

/-- The elements with a given name directly inside an element. -/
def Element.named (e : Element) (name : String) : List Element :=
  e.children.filter fun child => child.tag.name = name

/-! ## Names and values -/

/-- The code points, from one to another, of the characters that may start a
name. -/
def nameStartSpans : List (Nat × Nat) :=
  [(0x3A, 0x3A), (0x41, 0x5A), (0x5F, 0x5F), (0x61, 0x7A), (0xC0, 0xD6), (0xD8, 0xF6),
    (0xF8, 0x2FF), (0x370, 0x37D), (0x37F, 0x1FFF), (0x200C, 0x200D), (0x2070, 0x218F),
    (0x2C00, 0x2FEF), (0x3001, 0xD7FF), (0xF900, 0xFDCF), (0xFDF0, 0xFFFD), (0x10000, 0xEFFFF)]

/-- The code points of the other characters of names: hyphen, stop, digits, the
middle dot, combining marks and ties. -/
def nameRestSpans : List (Nat × Nat) :=
  [(0x2D, 0x2E), (0x30, 0x39), (0xB7, 0xB7), (0x300, 0x36F), (0x203F, 0x2040)]

/-- Whether a character may start a name. -/
def isNameStart (c : Char) : Bool :=
  nameStartSpans.any fun span => decide (span.1 ≤ c.toNat) && decide (c.toNat ≤ span.2)

/-- Whether a character may stand in a name. -/
def isNameChar (c : Char) : Bool :=
  (nameStartSpans ++ nameRestSpans).any fun span =>
    decide (span.1 ≤ c.toNat) && decide (c.toNat ≤ span.2)

/-- A name of an element or of an attribute. -/
def IsName (name : String) : Prop :=
  ∃ c cs, name.toList = c :: cs ∧ isNameStart c = true ∧ ∀ d ∈ cs, isNameChar d = true

/-- A value that says nothing but its characters: there is no quote, no bracket and
no reference in it. -/
def IsPlainValue (value : String) : Prop :=
  ∀ c ∈ value.toList, c ∉ ['"', '\'', '<', '>', '&']

/-- A tag as a document may have it. -/
@[mk_iff]
structure Tag.Lawful (tag : Tag) : Prop where
  /-- The element has a name. -/
  name : IsName tag.name
  /-- The attributes have names. -/
  keys : ∀ a ∈ tag.attributes, IsName a.key
  /-- No two attributes have the same name. -/
  keys_nodup : (tag.attributes.map Attribute.key).Nodup
  /-- The values of the attributes are plain. -/
  values : ∀ a ∈ tag.attributes, IsPlainValue a.value

instance (name : String) : Decidable (IsName name) :=
  match h : name.toList with
  | [] => isFalse fun hname => by
    obtain ⟨c, cs, heq, -⟩ := hname
    simp [h] at heq
  | c :: cs => decidable_of_iff (isNameStart c = true ∧ cs.all isNameChar = true) <| by
    simp [IsName, h, and_assoc]

instance (value : String) : Decidable (IsPlainValue value) :=
  List.decidableBAll _ value.toList

instance (tag : Tag) : Decidable tag.Lawful :=
  decidable_of_iff _ (Tag.lawful_iff tag).symm

mutual

/-- The tag of an element and those of the elements inside it, at any depth, are as
a document may have them. -/
def Element.Lawful : Element → Prop
  | ⟨tag, children⟩ => tag.Lawful ∧ AllLawful children

/-- All of the elements are lawful. -/
def AllLawful : List Element → Prop
  | [] => True
  | e :: elements => e.Lawful ∧ AllLawful elements

end

mutual

instance Element.decidableLawful : (e : Element) → Decidable e.Lawful
  | ⟨_, children⟩ =>
    have := decidableAllLawful children
    inferInstanceAs (Decidable (_ ∧ _))

instance decidableAllLawful : (elements : List Element) → Decidable (AllLawful elements)
  | [] => inferInstanceAs (Decidable True)
  | e :: elements =>
    have := e.decidableLawful
    have := decidableAllLawful elements
    inferInstanceAs (Decidable (_ ∧ _))

end

/-! ## Written forms -/

/-- A run of blanks, maybe an empty one. -/
def IsGap (cs : List Char) : Prop :=
  ∀ c ∈ cs, isBlank c = true

theorem isGap_nil : IsGap [] :=
  List.forall_mem_nil _

theorem isGap_blank : IsGap [' '] :=
  List.forall_mem_singleton.2 rfl

/-- What attributes are written as behind the name of their element.  Each has a
blank in front, and there may be more of them there, around the sign and behind
the last attribute. -/
inductive AttributesWritten : List Attribute → List Char → Prop where
  /-- no attribute is left -/
  | nil {gap : List Char} (hgap : IsGap gap) : AttributesWritten [] gap
  /-- an attribute and those behind it -/
  | cons {a : Attribute} {attributes : List Attribute} {blank quote : Char}
    {gap before after cs : List Char} (hblank : isBlank blank = true) (hgap : IsGap gap)
    (hbefore : IsGap before) (hafter : IsGap after) (hquote : quote = '"' ∨ quote = '\'')
    (h : AttributesWritten attributes cs) :
    AttributesWritten (a :: attributes)
      (blank :: gap ++ (a.key.toList ++ (before ++ '=' :: (after ++ quote ::
        (a.value.toList ++ quote :: cs)))))

/-- What a tag is written as between its brackets, with its attributes in any
order. -/
inductive TagWritten (tag : Tag) : List Char → Prop where
  /-- the name and the attributes -/
  | mk {attributes : List Attribute} {cs : List Char} (hlawful : tag.Lawful)
    (horder : attributes.Perm tag.attributes) (h : AttributesWritten attributes cs) :
    TagWritten tag (tag.name.toList ++ cs)

/-- What may stand between elements. -/
inductive Filler : List Char → Prop where
  /-- a blank -/
  | blank {c : Char} (h : isBlank c = true) : Filler [c]
  /-- a comment -/
  | comment {body : List Char} (h : ¬ ['-', '-', '>'] <:+: body) :
    Filler (['<', '!', '-', '-'] ++ body ++ ['-', '-', '>'])
  /-- the declaration of the document, or another instruction -/
  | instruction {body : List Char} (hstart : body.head? ≠ some '>')
    (h : ¬ ['?', '>'] <:+: body) : Filler (['<', '?'] ++ body ++ ['?', '>'])

/-- What elements that follow each other are written as. -/
inductive Written : List Element → List Char → Prop where
  /-- no element -/
  | nil : Written [] []
  /-- something between elements -/
  | filler {elements : List Element} {piece cs : List Char} (hpiece : Filler piece)
    (h : Written elements cs) : Written elements (piece ++ cs)
  /-- an element without content as a single tag -/
  | single {tag : Tag} {elements : List Element} {content cs : List Char}
    (htag : TagWritten tag content) (h : Written elements cs) :
    Written (⟨tag, []⟩ :: elements) ('<' :: content ++ '/' :: '>' :: cs)
  /-- an element between its start tag and its end tag -/
  | pair {tag : Tag} {children elements : List Element} {content inner gap cs : List Char}
    (htag : TagWritten tag content) (hinner : Written children inner) (hgap : IsGap gap)
    (h : Written elements cs) :
    Written (⟨tag, children⟩ :: elements)
      ('<' :: content ++ '>' :: (inner ++ '<' :: '/' :: (tag.name.toList ++ gap ++ '>' :: cs)))

/-! ## One written form -/

/-- Attributes with one blank in front of each. -/
def writeAttributes : List Attribute → List Char
  | [] => []
  | a :: attributes =>
    ' ' :: (a.key.toList ++ '=' :: '"' :: (a.value.toList ++ '"' :: writeAttributes attributes))

mutual

/-- An element as two tags, with nothing else between the elements inside it. -/
def Element.write : Element → List Char
  | ⟨tag, children⟩ =>
    '<' :: (tag.name.toList ++ writeAttributes tag.attributes ++ '>' ::
      (writeAll children ++ '<' :: '/' :: (tag.name.toList ++ ['>'])))

/-- Elements one behind the other. -/
def writeAll : List Element → List Char
  | [] => []
  | e :: elements => e.write ++ writeAll elements

end

theorem attributesWritten_writeAttributes (attributes : List Attribute) :
    AttributesWritten attributes (writeAttributes attributes) := by
  induction attributes with
  | nil => exact .nil isGap_nil
  | cons a attributes ih => exact .cons rfl isGap_nil isGap_nil isGap_nil (.inl rfl) ih

/-- Lawful elements are written by writing them in one way. -/
theorem written_writeAll (elements : List Element) (h : AllLawful elements) :
    Written elements (writeAll elements) := by
  match elements, h with
  | [], _ => exact .nil
  | ⟨tag, children⟩ :: elements, h =>
    obtain ⟨⟨htag, hchildren⟩, h⟩ := h
    have hcontent : TagWritten tag (tag.name.toList ++ writeAttributes tag.attributes) :=
      .mk htag (.refl _) (attributesWritten_writeAttributes _)
    have hpair := Written.pair hcontent (written_writeAll children hchildren) isGap_nil
      (written_writeAll elements h)
    simpa only [writeAll, Element.write, List.cons_append, List.append_assoc, List.append_nil,
      List.nil_append] using hpair

/-- A document with a root element, in one of its written forms. -/
def Element.document (root : Element) : String :=
  String.ofList (writeAll [root])

theorem written_document {root : Element} (h : root.Lawful) :
    Written [root] root.document.toList := by
  rw [Element.document, String.toList_ofList]
  exact written_writeAll [root] ⟨h, trivial⟩

/-! ## Characters of names -/

theorem isNameChar_of_isNameStart {c : Char} (h : isNameStart c = true) :
    isNameChar c = true := by
  rw [isNameChar, List.any_append]
  exact Bool.or_eq_true_iff.2 (.inl h)

/-- A character of names is none that stands in no name. -/
theorem ne_of_isNameChar {c d : Char} (hc : isNameChar c = true) (hd : isNameChar d = false) :
    c ≠ d := by
  rintro rfl
  simp [hc] at hd

theorem isBlank_eq_false_of_isNameChar {c : Char} (h : isNameChar c = true) :
    isBlank c = false := by
  have hspace := ne_of_isNameChar h (d := ' ') (by decide)
  have htab := ne_of_isNameChar h (d := '\t') (by decide)
  have hreturn := ne_of_isNameChar h (d := '\r') (by decide)
  have hfeed := ne_of_isNameChar h (d := '\n') (by decide)
  simp [isBlank, hspace, htab, hreturn, hfeed]

theorem endsKey_eq_false_of_isNameChar {c : Char} (h : isNameChar c = true) :
    endsKey c = false := by
  have hsign := ne_of_isNameChar h (d := '=') (by decide)
  simp [endsKey, hsign, isBlank_eq_false_of_isNameChar h]

theorem IsName.isNameChar {name : String} (h : IsName name) :
    ∀ c ∈ name.toList, isNameChar c = true := by
  obtain ⟨c, cs, heq, hc, hcs⟩ := h
  rw [heq]
  intro d hd
  rcases List.mem_cons.1 hd with rfl | hd
  · exact isNameChar_of_isNameStart hc
  · exact hcs d hd

end TypeProjection.Markup
