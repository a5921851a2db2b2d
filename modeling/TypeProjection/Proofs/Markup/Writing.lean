/-
  Proofs/Markup/Writing.lean --- reading what an element tree is written as in one way.

  A value that is written in double quotes is read as it stands there, whatever it holds
  besides: references are not resolved.  So a tree without double quotes in its values is
  read back as it is (`ofText_document`), and text that is escaped in order to stand in
  values is read escaped.
-/
import TypeProjection.Proofs.Markup.Reading

set_option autoImplicit false

namespace TypeProjection.Markup

/-! ## Escaping -/

/-- What a character is written as in a value in double quotes. -/
def escapeChar : Char → List Char
  | '&' => "&amp;".toList
  | '<' => "&lt;".toList
  | '>' => "&gt;".toList
  | '"' => "&quot;".toList
  | c => [c]

/-- A text as it is written in a value in double quotes. -/
def escape (text : String) : String :=
  String.ofList (text.toList.flatMap escapeChar)

/-- A character that is not written as it is. -/
def IsEscaped (c : Char) : Prop :=
  c ∈ ['&', '<', '>', '"']

instance : DecidablePred IsEscaped := fun c =>
  inferInstanceAs (Decidable (c ∈ _))

theorem escapeChar_of_not_isEscaped {c : Char} (h : ¬ IsEscaped c) : escapeChar c = [c] := by
  unfold escapeChar
  split
  · exact absurd (by decide) h
  · exact absurd (by decide) h
  · exact absurd (by decide) h
  · exact absurd (by decide) h
  · rfl

theorem one_lt_length_escapeChar {c : Char} (h : IsEscaped c) : 1 < (escapeChar c).length := by
  simp only [IsEscaped, List.mem_cons, List.not_mem_nil, or_false] at h
  rcases h with rfl | rfl | rfl | rfl <;> decide

/-- No quote is written inside quotes. -/
theorem quote_not_mem_escape (text : String) : '"' ∉ (escape text).toList := by
  rw [escape, String.toList_ofList, List.mem_flatMap]
  intro hex
  obtain ⟨c, -, hc⟩ := hex
  by_cases hescaped : IsEscaped c
  · simp only [IsEscaped, List.mem_cons, List.not_mem_nil, or_false] at hescaped
    rcases hescaped with rfl | rfl | rfl | rfl <;> revert hc <;> decide
  · rw [escapeChar_of_not_isEscaped hescaped, List.mem_singleton] at hc
    exact hescaped (hc ▸ by decide)

theorem length_le_flatMap_escapeChar (cs : List Char) :
    cs.length ≤ (cs.flatMap escapeChar).length := by
  induction cs with
  | nil => exact Nat.le_refl 0
  | cons c cs ih =>
    have hc : 1 ≤ (escapeChar c).length := by
      by_cases hescaped : IsEscaped c
      · exact Nat.le_of_lt (one_lt_length_escapeChar hescaped)
      · rw [escapeChar_of_not_isEscaped hescaped]
        exact Nat.le_refl 1
    rw [List.flatMap_cons, List.length_append, List.length_cons]
    omega

/-- Only a text without such characters is written as it is. -/
theorem escape_eq_self_iff {text : String} :
    escape text = text ↔ ∀ c ∈ text.toList, ¬ IsEscaped c := by
  have hchars : ∀ cs : List Char, cs.flatMap escapeChar = cs ↔ ∀ c ∈ cs, ¬ IsEscaped c := by
    intro cs
    induction cs with
    | nil => simp
    | cons c cs ih =>
      rw [List.flatMap_cons, List.forall_mem_cons]
      by_cases hescaped : IsEscaped c
      · refine iff_of_false (fun heq => ?_) (fun h => h.1 hescaped)
        have hlength := congrArg List.length heq
        have hc := one_lt_length_escapeChar hescaped
        have hcs := length_le_flatMap_escapeChar cs
        rw [List.length_append, List.length_cons] at hlength
        omega
      · rw [escapeChar_of_not_isEscaped hescaped, List.singleton_append, List.cons.injEq, ih]
        simp [hescaped]
  rw [← hchars, escape, ← String.toList_inj, String.toList_ofList]

/-! ## Tags -/

/-- A tag of which the values can stand in double quotes. -/
structure Tag.Quotable (tag : Tag) : Prop where
  /-- The element has a name. -/
  name : IsName tag.name
  /-- The attributes have names. -/
  keys : ∀ a ∈ tag.attributes, IsName a.key
  /-- No two attributes have the same name. -/
  keys_nodup : (tag.attributes.map Attribute.key).Nodup
  /-- There is no double quote in a value. -/
  values : ∀ a ∈ tag.attributes, '"' ∉ a.value.toList

theorem Tag.Reorders.refl {tag : Tag} (h : (tag.attributes.map Attribute.key).Nodup) :
    tag.Reorders tag :=
  ⟨rfl, .refl _, h⟩

section Attributes

variable {attributes : List Attribute} (hkeys : ∀ a ∈ attributes, IsName a.key)
  (hvalues : ∀ a ∈ attributes, '"' ∉ a.value.toList)

include hkeys hvalues

theorem staysInTag_writeAttributes : StaysInTag (writeAttributes attributes) := by
  induction attributes with
  | nil => exact .nil
  | cons a attributes ih =>
    rw [List.forall_mem_cons] at hkeys hvalues
    exact staysInTag_attribute hkeys.1 isGap_blank isGap_nil isGap_nil (.inl rfl) hvalues.1
      (ih hkeys.2 hvalues.2)

theorem areAttributes_writeAttributes : AreAttributes attributes (writeAttributes attributes) := by
  induction attributes with
  | nil => exact .nil isGap_nil
  | cons a attributes ih =>
    rw [List.forall_mem_cons] at hkeys hvalues
    exact .cons (.mk isGap_blank hkeys.1.isKey isGap_nil isGap_nil (.inl rfl) hvalues.1)
      (ih hkeys.2 hvalues.2)

end Attributes

/-- What a tag is written as between its brackets. -/
def Tag.content (tag : Tag) : List Char :=
  tag.name.toList ++ writeAttributes tag.attributes

namespace Tag.Quotable

/-- A tag with given keys, of which nothing but the values is left open. -/
theorem of_keys {name : String} {attributes : List Attribute} (keys : List String)
    (heq : attributes.map Attribute.key = keys)
    (h : IsName name ∧ (∀ key ∈ keys, IsName key) ∧ keys.Nodup)
    (hvalues : ∀ a ∈ attributes, '"' ∉ a.value.toList) : Quotable ⟨name, attributes⟩ where
  name := h.1
  keys a ha := h.2.1 a.key (heq ▸ List.mem_map_of_mem ha)
  keys_nodup := heq ▸ h.2.2
  values := hvalues

variable {tag : Tag} (h : tag.Quotable)

include h

theorem staysInTag : StaysInTag tag.content :=
  h.name.staysInTag.append (staysInTag_writeAttributes h.keys h.values)

theorem ofContent_content : Tag.ofContent tag.content = tag := by
  have hwell := areAttributes_writeAttributes h.keys h.values
  have hattributes := readAttributes_of_areAttributes hwell h.keys_nodup
  rw [content, ofContent_append h.name (attributesWritten_writeAttributes _), hattributes]

end Tag.Quotable

/-! ## Elements -/

mutual

/-- The values in an element, at any depth, can stand in double quotes. -/
def Element.Quotable : Element → Prop
  | ⟨tag, children⟩ => tag.Quotable ∧ AllQuotable children

/-- The values in all of the elements can stand in double quotes. -/
def AllQuotable : List Element → Prop
  | [] => True
  | e :: elements => e.Quotable ∧ AllQuotable elements

end

theorem allQuotable_iff {elements : List Element} :
    AllQuotable elements ↔ ∀ e ∈ elements, e.Quotable := by
  induction elements with
  | nil => simp [AllQuotable]
  | cons e elements ih => rw [AllQuotable, ih, List.forall_mem_cons]

/-- Elements are read as they are written, whatever follows. -/
theorem readEvents_writeAll (elements : List Element) (h : AllQuotable elements) :
    ∃ events, Spells elements events ∧ ∀ openNames rest,
      readEvents openNames (writeAll elements ++ rest) =
        events.foldr Reading.cons (readEvents openNames rest) := by
  match elements, h with
  | [], _ => exact ⟨[], .nil, fun _ _ => rfl⟩
  | ⟨tag, children⟩ :: elements, h =>
    obtain ⟨⟨htag, hchildren⟩, h⟩ := h
    obtain ⟨innerEvents, hinnerSpells, hinnerRead⟩ := readEvents_writeAll children hchildren
    obtain ⟨events, hspells, hread⟩ := readEvents_writeAll elements h
    refine ⟨_, .pair (.refl htag.keys_nodup) hinnerSpells hspells, fun openNames rest => ?_⟩
    obtain ⟨⟨c, cs, hhead, hc⟩, hlast⟩ :=
      head_and_getLast?_append htag.name (attributesWritten_writeAttributes tag.attributes)
    have hopened := readEvents_startTag htag.staysInTag hhead hc hlast openNames
    have hclosed := readEvents_closed htag.name isGap_nil openNames
    rw [htag.ofContent_content] at hopened
    rw [List.foldr_cons, List.foldr_append, List.foldr_cons, ← hread openNames rest,
      ← hclosed, ← hinnerRead, ← hopened]
    simp only [writeAll, Element.write, Tag.content, List.cons_append, List.append_assoc,
      List.append_nil, List.nil_append]

/-- The document of a root element is read to its end, and its events spell the element. -/
theorem ofText_document {root : Element} (h : root.Quotable) :
    ∃ events, Spells [root] events ∧ Reading.ofText root.document = ⟨events, .complete⟩ := by
  obtain ⟨events, hspells, hread⟩ := readEvents_writeAll [root] ⟨h, trivial⟩
  have htext : root.document.toList = writeAll [root] := String.toList_ofList
  refine ⟨events, hspells, ofText_of_readEvents ?_ fun openNames rest => ?_⟩
  · obtain ⟨tag, children⟩ := root
    rw [htext, writeAll, Element.write]
    simp
  · rw [htext, hread]

end TypeProjection.Markup
