/-
  Proofs/Document/Mended.lean --- documents with attributes that are not well-formed.

  What is no attribute in a tag, or has a key that was read before, is passed over without a
  word.  So a schema and an override document are read exactly as if each tag had only the
  attributes that were read of it, all of them well-formed (`mended_verdict`).
-/
import TypeProjection.Override.Reader
import TypeProjection.Proofs.Markup.Places

set_option autoImplicit false

namespace TypeProjection

namespace Markup

/-! ## Attributes in quotes -/

/-- The quotes that a value does not close. -/
def quoteOf (value : String) : Char :=
  if '"' ∈ value.toList then '\'' else '"'

/-- Attributes with a blank in front of each and one behind the last. -/
def writeQuoted : List Attribute → List Char
  | [] => [' ']
  | a :: attributes =>
    ' ' :: (a.key.toList ++ '=' :: quoteOf a.value ::
      (a.value.toList ++ quoteOf a.value :: writeQuoted attributes))

theorem quoteOf_eq_or (value : String) : quoteOf value = '"' ∨ quoteOf value = '\'' := by
  unfold quoteOf
  split
  · exact .inr rfl
  · exact .inl rfl

theorem Attribute.Writable.quoteOf_not_mem {a : Attribute} (h : a.Writable) :
    quoteOf a.value ∉ a.value.toList := by
  unfold quoteOf
  split
  · rename_i hdouble
    exact h.value.resolve_left (not_not_intro hdouble)
  · assumption

theorem exists_writeQuoted_eq (attributes : List Attribute) :
    ∃ cs, writeQuoted attributes = ' ' :: cs := by
  cases attributes with
  | nil => exact ⟨[], rfl⟩
  | cons a attributes => exact ⟨_, rfl⟩

theorem getLast?_writeQuoted (attributes : List Attribute) :
    (writeQuoted attributes).getLast? = some ' ' := by
  induction attributes with
  | nil => rfl
  | cons a attributes ih =>
    rw [writeQuoted]
    simp only [List.getLast?_cons, List.getLast?_append, ih, Option.getD_some, Option.some_or]

theorem areAttributes_writeQuoted {attributes : List Attribute} (h : ∀ a ∈ attributes, a.Writable) :
    AreAttributes attributes (writeQuoted attributes) := by
  induction attributes with
  | nil => exact .nil isGap_blank
  | cons a attributes ih =>
    obtain ⟨ha, h⟩ := List.forall_mem_cons.1 h
    have hquote := quoteOf_eq_or a.value
    exact .cons (.mk isGap_blank ha.key isGap_nil isGap_nil hquote ha.quoteOf_not_mem) (ih h)

theorem staysInTag_writeQuoted {attributes : List Attribute} (h : ∀ a ∈ attributes, a.Writable)
    (hkeys : ∀ a ∈ attributes, StaysInTag a.key.toList) : StaysInTag (writeQuoted attributes) := by
  have hblank : StaysInTag [' '] := isGap_blank.staysInTag
  have hsign : StaysInTag ['='] := .of_forall (by simp)
  induction attributes with
  | nil => exact hblank
  | cons a attributes ih =>
    obtain ⟨ha, h⟩ := List.forall_mem_cons.1 h
    obtain ⟨hkey, hkeys⟩ := List.forall_mem_cons.1 hkeys
    have hvalue := StaysInTag.quoted (quoteOf_eq_or a.value) ha.quoteOf_not_mem
    have hall := hblank.append (hkey.append (hsign.append (hvalue.append (ih h hkeys))))
    simpa only [writeQuoted, List.cons_append, List.append_assoc, List.nil_append] using hall

/-! ## Mended tags -/

/-- What stands in a tag behind the name. -/
def attributesText (content : List Char) : List Char :=
  content.dropWhile (!isBlank ·)

/-- The content of a tag with the attributes that are read of it and nothing else. -/
def mend (content : List Char) : List Char :=
  content.takeWhile (!isBlank ·) ++ writeQuoted (Tag.ofContent content).attributes

/-- The name and the keys in a tag can be written in one: they have no bracket in them and
leave no quote open, as is so for all names. -/
structure Mendable (content : List Char) : Prop where
  /-- The name can. -/
  name : StaysInTag (content.takeWhile (!isBlank ·))
  /-- The keys that are read can. -/
  keys : ∀ a ∈ (Tag.ofContent content).attributes, StaysInTag a.key.toList

/-- The name and the attributes of a mended tag. -/
theorem takeWhile_mend (content : List Char) :
    (mend content).takeWhile (!isBlank ·) = content.takeWhile (!isBlank ·) ∧
      attributesText (mend content) = writeQuoted (Tag.ofContent content).attributes := by
  have hname : ∀ c ∈ content.takeWhile (!isBlank ·), (!isBlank c) = true := fun c hc => by
    rw [isBlank_of_mem_takeWhile hc]
    rfl
  obtain ⟨cs, hcs⟩ := exists_writeQuoted_eq (Tag.ofContent content).attributes
  rw [attributesText, mend, hcs, List.takeWhile_append_of_pos hname,
    List.dropWhile_append_of_pos hname, List.takeWhile_cons_of_neg (by decide),
    List.dropWhile_cons_of_neg (by decide), List.append_nil]
  exact ⟨rfl, rfl⟩

/-- A mended tag has nothing but the attributes that were read. -/
theorem attributeItems_mend (content : List Char) :
    attributeItems [] (attributesText (mend content)) =
      (Tag.ofContent content).attributes.map .ok := by
  obtain ⟨hall, hnodup⟩ := writable_of_readAttributes [] (attributesText content)
  rw [(takeWhile_mend content).2, attributeItems_eq_map_iff]
  refine ⟨areAttributes_writeQuoted fun a ha => (hall a ha).1, hnodup, ?_⟩
  exact fun a ha => (hall a ha).2

theorem attributes_ofContent (content : List Char) :
    (Tag.ofContent content).attributes =
      (attributeItems [] (attributesText content)).filterMap Except.toOption :=
  readAttributes_eq_filterMap [] (attributesText content)

/-- A mended tag is read as the tag was. -/
theorem ofContent_mend (content : List Char) :
    Tag.ofContent (mend content) = Tag.ofContent content := by
  have hattributes :
      (Tag.ofContent (mend content)).attributes = (Tag.ofContent content).attributes := by
    rw [attributes_ofContent (mend content), attributeItems_mend, List.filterMap_map]
    exact List.filterMap_some
  have hname : (Tag.ofContent (mend content)).name = (Tag.ofContent content).name :=
    congrArg String.ofList (takeWhile_mend content).1
  exact congrArg₂ Tag.mk hname hattributes

/-- A mended tag begins as the tag did, or with a blank. -/
theorem head?_mend (content : List Char) :
    (mend content).head? = content.head? ∨ (mend content).head? = some ' ' := by
  obtain ⟨cs, hcs⟩ := exists_writeQuoted_eq (Tag.ofContent content).attributes
  rw [mend, hcs]
  cases content with
  | nil => exact .inr rfl
  | cons c content =>
    rw [List.takeWhile_cons]
    split
    · exact .inl rfl
    · exact .inr rfl

theorem elementContent_mend {content : List Char} {single : Bool} (h : Mendable content)
    (hcontent : IsContent (slashed content single))
    (hhead : (slashed content single).head? ≠ some '/') : ElementContent (mend content) := by
  -- the first character of a tag that has one is that of its content
  have hfirst : ∀ c, (slashed content single).head? ≠ some c → content.head? ≠ some c := by
    intro c hc hfound
    obtain ⟨cs, rfl⟩ := List.head?_eq_some_iff.1 hfound
    cases single <;> exact hc rfl
  have hmend : ∀ c, c ≠ ' ' → (slashed content single).head? ≠ some c →
      (mend content).head? ≠ some c := by
    intro c hblank hc hfound
    rcases head?_mend content with heq | heq
    · exact hfirst c hc (heq ▸ hfound)
    · exact hblank (Option.some.inj (hfound.symm.trans heq))
  have hlast : (mend content).getLast? = some ' ' := by
    rw [mend, List.getLast?_append, getLast?_writeQuoted, Option.some_or]
  obtain ⟨hall, -⟩ := writable_of_readAttributes [] (attributesText content)
  have hstays := staysInTag_writeQuoted (fun a ha => (hall a ha).1) h.keys
  refine ⟨⟨h.name.append hstays, ?_, ?_⟩, ?_, ?_, ?_⟩
  · exact hmend '!' (by decide) hcontent.bang
  · exact hmend '?' (by decide) hcontent.question
  · rintro hnil
    rw [hnil] at hlast
    cases hlast
  · exact hmend '/' (by decide) hhead
  · rw [hlast]
    decide

end Markup

open Markup

/-! ## Documents -/

/-- A tag that begins an element, at a place of a document. -/
structure ElementTag where
  /-- Where the tag stands. -/
  place : Place
  /-- The name and the attributes, as written. -/
  content : List Char
  /-- Whether it is a single tag. -/
  single : Bool
  /-- The text behind the tag. -/
  behind : List Char
  /-- The content can stand in a tag. -/
  inTag : IsContent (slashed content single)
  /-- The tag begins an element. -/
  begins : tagEvent place.openNames (slashed content single) =
    .ok ((Tag.ofContent content).event single,
      (Tag.ofContent content).openBehind place.openNames single)

namespace ElementTag

variable (e : ElementTag)

/-- The name and the attributes that are read. -/
def tag : Tag :=
  .ofContent e.content

/-- The document. -/
def text : List Char :=
  e.place.withTag (slashed e.content e.single) e.behind

/-- The document in which the tag has nothing but the attributes that are read of it. -/
def mended : List Char :=
  e.place.withTag (slashed (mend e.content) e.single) e.behind

/-- The document with the mended tag is read as the document is. -/
theorem ofText_mended {e : ElementTag} (h : Mendable e.content) {text mended : String}
    (htext : withoutByteOrderMark text = e.text)
    (hmended : withoutByteOrderMark mended = e.mended) :
    Reading.ofText mended = Reading.ofText text := by
  have hhead := (exists_of_tagEvent e.single e.begins).1
  have hcontent := elementContent_mend h e.inTag hhead
  rw [Place.ofText_withTag htext e.inTag e.begins,
    Place.ofText_withTag hmended (hcontent.isContent_slashed e.single)
      (hcontent.tagEvent_slashed e.place.openNames e.single), ofContent_mend]

end ElementTag

/-- Every tag of a document that begins an element stands at such a place. -/
theorem exists_elementTag {text : String} {front back : List Event} {tag : Tag} {single : Bool}
    (h : (Reading.ofText text).events = front ++ tag.event single :: back) :
    ∃ e : ElementTag, withoutByteOrderMark text = e.text ∧ e.tag = tag ∧
      e.place.front = front ∧ e.single = single := by
  have haside : tag.event single ≠ .aside := by cases single <;> simp [Tag.event]
  obtain ⟨place, _, behind, _, hfront, htext, hcontent, hevent⟩ := exists_place h haside
  obtain ⟨-, content, rfl, rfl, rfl⟩ := exists_of_tagEvent single hevent
  exact ⟨⟨place, content, single, behind, hcontent, hevent⟩, htext, rfl, hfront, rfl⟩

/-- Every tag that begins an element stands at a place of the document.  What is read of it
are its items that are attributes; the others are passed over, and there are none exactly if
its attributes are well-formed and no key is repeated.  Schemas and overrides are read, or
refused, as if the tag had only the attributes that are read of it. -/
theorem mended_verdict (text : String) :
    (∀ front tag single back,
      (Reading.ofText text).events = front ++ Tag.event tag single :: back →
        ∃ e : ElementTag, withoutByteOrderMark text = e.text ∧ e.tag = tag ∧
          e.place.front = front ∧ e.single = single) ∧
    ∀ e : ElementTag, withoutByteOrderMark text = e.text →
      e.tag.attributes =
        (attributeItems [] (attributesText e.content)).filterMap Except.toOption ∧
      ((∀ item ∈ attributeItems [] (attributesText e.content), item.isOk = true) ↔
        ∃ attributes : List Attribute, AreAttributes attributes (attributesText e.content) ∧
          (attributes.map Attribute.key).Nodup) ∧
      AreAttributes e.tag.attributes (attributesText (mend e.content)) ∧
      (e.tag.attributes.map Attribute.key).Nodup ∧
      (Mendable e.content → ∀ mended : String, withoutByteOrderMark mended = e.mended →
        readSchema text = readSchema mended ∧ readOverrides text = readOverrides mended) := by
  refine ⟨fun _ _ _ _ => exists_elementTag, fun e htext => ?_⟩
  obtain ⟨hall, hnodup, -⟩ := attributeItems_eq_map_iff.1 (attributeItems_mend e.content)
  refine ⟨attributes_ofContent e.content, forall_isOk_attributeItems_iff, hall, hnodup, ?_⟩
  intro hmendable mended hmended
  have hread := ElementTag.ofText_mended hmendable htext hmended
  rw [readSchema, readSchema, readOverrides, readOverrides, hread]
  exact ⟨rfl, rfl⟩

theorem elementContent_settings : ElementContent "Settings".toList where
  inTag := by decide
  ne_nil := by decide
  head := by decide
  last := by decide

/-- The declaration of a primitive that is named twice. -/
def namedTwice : ElementTag where
  place := .behindStart "Settings".toList elementContent_settings
  content := "Primitive Name=\"A\" Name=\"B\"".toList
  single := true
  behind := "</Settings>".toList
  inTag := by decide
  begins := by decide +kernel

theorem mended_verdict_repeated :
    attributeItems [] (attributesText namedTwice.content) =
        [.ok ⟨"Name", "A"⟩, .error (.repeated "Name")] ∧
      readSchema "<Settings><Primitive Name=\"A\" Name=\"B\"/></Settings>" =
        readSchema "<Settings><Primitive Name=\"A\" /></Settings>" := by
  refine ⟨by decide +kernel, ?_⟩
  have hattributes : (Tag.ofContent namedTwice.content).attributes = [⟨"Name", "A"⟩] := by
    decide +kernel
  have hmendable : Mendable namedTwice.content := by
    refine ⟨by decide, ?_⟩
    rw [hattributes, List.forall_mem_singleton]
    decide
  have hverdict := (mended_verdict
    "<Settings><Primitive Name=\"A\" Name=\"B\"/></Settings>").2 namedTwice (by decide +kernel)
  obtain ⟨-, -, -, -, hread⟩ := hverdict
  exact (hread hmendable "<Settings><Primitive Name=\"A\" /></Settings>" (by decide +kernel)).1

/-- Documents are accepted with a value that is not in quotes, and with a repeated key. -/
theorem accepted_with_faulty_attributes :
    (((readOverrides "<Overrides><Struct Name=\"S\" ShouldProject=true /></Overrides>").map
        fun overrides => (overrides.struct? "S").map StructOverride.shouldProject) =
          .ok (some false) ∧
      attributeItems [] " Name=\"S\" ShouldProject=true ".toList =
        [.ok ⟨"Name", "S"⟩, .error (.unquoted "ShouldProject")]) ∧
    ((readSchema "<Settings><Primitive Name=\"A\" Name=\"B\"/></Settings>").map
        Schema.declarationCount = .ok 1 ∧
      attributeItems [] " Name=\"A\" Name=\"B\"".toList =
        [.ok ⟨"Name", "A"⟩, .error (.repeated "Name")]) := by
  refine ⟨⟨eq_ok_of_toOption ?_, ?_⟩, eq_ok_of_toOption ?_, ?_⟩
  · decide +kernel
  · decide +kernel
  · decide +kernel
  · decide +kernel

end TypeProjection
