/-
  Proofs/Markup/Reading.lean --- reading what an element tree is written as.

  However a tree is written, its events spell it: an element without content is
  one event or two, one with content stands between its two events, and its
  attributes are read as they are written.  What is read of a written piece does
  not depend on what follows it.
-/
import Mathlib.Data.List.Infix
import TypeProjection.Proofs.Markup.AttributeItems
import TypeProjection.Proofs.Markup.Nesting

set_option autoImplicit false

namespace TypeProjection.Markup

/-! ## Between elements -/

/-- A blank between elements is passed over. -/
theorem readEvents_blank {c : Char} (hc : isBlank c = true) (openNames : List String)
    (rest : List Char) : readEvents openNames (c :: rest) = readEvents openNames rest := by
  have hskip : skipText false (c :: rest) = skipText false rest := by
    have hopen : c ≠ '<' := by rintro rfl; simp [isBlank] at hc
    have hreference : c ≠ '&' := by rintro rfl; simp [isBlank] at hc
    simp [skipText, hopen, hreference]
  rw [readEvents_eq, readEvents_eq openNames rest, hskip]

/-- What is read from an opening bracket on depends on the piece behind it. -/
theorem readEvents_open (openNames : List String) (markup : List Char) :
    readEvents openNames ('<' :: markup) =
      match readPiece markup with
      | .error fault => ⟨[], .broken fault⟩
      | .ok (.aside, rest) => (readEvents openNames rest).cons .aside
      | .ok (.tag content, rest) =>
        match tagEvent openNames content with
        | .error fault => ⟨[], .broken (.form fault)⟩
        | .ok (event, openNames') => (readEvents openNames' rest).cons event := by
  have hskip : skipText false ('<' :: markup) = .ok (some markup) := rfl
  have hread := readEvents_eq openNames ('<' :: markup)
  rw [hskip] at hread
  exact hread

theorem behind?_eq_some_iff {mark cs rest : List Char} :
    behind? mark cs = some rest ↔ cs = mark ++ rest := by
  induction mark generalizing cs with
  | nil => simp [behind?]
  | cons m mark ih =>
    cases cs with
    | nil => simp [behind?]
    | cons c cs =>
      simp only [behind?, List.cons_append, List.cons.injEq]
      by_cases hc : m = c
      · simp [hc, ih]
      · simp [hc, Ne.symm hc]

/-- No end of a mark, but the whole of it, is also its beginning. -/
def Unbordered (mark : List Char) : Prop :=
  ∀ part ∈ mark.tails, part <+: mark → part = [] ∨ part = mark

instance (mark : List Char) : Decidable (Unbordered mark) :=
  inferInstanceAs (Decidable (∀ part ∈ mark.tails, _))

/-- Reading up to a mark stops at a mark that follows a text without it. -/
theorem behindFirst?_append {mark body : List Char} (hmark : Unbordered mark)
    (h : ¬ mark <:+: body) (rest : List Char) :
    behindFirst? mark (body ++ (mark ++ rest)) = some rest := by
  induction body with
  | nil =>
    have hfound : behind? mark (mark ++ rest) = some rest := behind?_eq_some_iff.2 rfl
    cases hcs : mark ++ rest with
    | nil => rwa [hcs] at hfound
    | cons c cs =>
      rw [hcs] at hfound
      simp [behindFirst?, hfound]
  | cons c body ih =>
    have hlater : ¬ mark <:+: body := fun hin => h (hin.trans (List.suffix_cons c body).isInfix)
    have hnone : behind? mark (c :: body ++ (mark ++ rest)) = none := by
      rw [Option.eq_none_iff_forall_ne_some]
      intro found hfound
      -- a mark from here on ends in the text, or begins the mark behind it
      rcases List.append_eq_append_iff.1 (behind?_eq_some_iff.1 hfound) with
        ⟨part, hmarkeq, hrest⟩ | ⟨part, hbody, -⟩
      · have htail : part ∈ mark.tails := (List.mem_tails _ _).2 ⟨_, hmarkeq.symm⟩
        have hprefix : part <+: mark := by
          refine List.prefix_of_prefix_length_le ⟨found, hrest.symm⟩ ⟨rest, rfl⟩ ?_
          rw [hmarkeq, List.length_append]
          omega
        rcases hmark part htail hprefix with rfl | rfl
        · exact h ⟨[], [], by simpa using hmarkeq⟩
        · have hlength := congrArg List.length hmarkeq
          simp only [List.length_append, List.length_cons] at hlength
          omega
      · exact h ⟨[], part, by simpa using hbody.symm⟩
    rw [List.cons_append] at hnone ⊢
    simp [behindFirst?, hnone, ih hlater]

/-- What stands between elements gives no event of an element. -/
theorem readEvents_filler {piece : List Char} (h : Filler piece) :
    (∀ openNames rest, readEvents openNames (piece ++ rest) = readEvents openNames rest) ∨
      ∀ openNames rest, readEvents openNames (piece ++ rest) =
        (readEvents openNames rest).cons .aside := by
  cases h with
  | blank hc => exact .inl (readEvents_blank hc)
  | @comment body hbody =>
    refine .inr fun openNames rest => ?_
    have hpiece : readPiece ('!' :: '-' :: '-' :: (body ++ (['-', '-', '>'] ++ rest))) =
        .ok (.aside, rest) := by
      have hend := behindFirst?_append (by decide) hbody rest
      simp only [readPiece, readBang, behind?, if_true, Option.bind_some, hend, orFault]
    simp only [List.append_assoc, List.cons_append, List.nil_append] at hpiece ⊢
    rw [readEvents_open, hpiece]
  | @instruction body hstart hbody =>
    refine .inr fun openNames rest => ?_
    have hpiece : readPiece ('?' :: (body ++ (['?', '>'] ++ rest))) = .ok (.aside, rest) := by
      have hend := behindFirst?_append (by decide) hbody rest
      have hhead : (body ++ (['?', '>'] ++ rest)).head? ≠ some '>' := by
        cases body with
        | nil => simp
        | cons c body => simpa using hstart
      simp only [readPiece, readInstruction, if_neg hhead, hend, orFault]
    simp only [List.append_assoc, List.cons_append, List.nil_append] at hpiece ⊢
    rw [readEvents_open, hpiece]

/-! ## Tags -/

/-- A text that stays in the content of a tag: no bracket closes the tag inside it,
and it leaves no quote open. -/
def StaysInTag (cs : List Char) : Prop :=
  ∀ rest, splitTag none (cs ++ rest) = (splitTag none rest).map fun p => (cs ++ p.1, p.2)

namespace StaysInTag

theorem nil : StaysInTag [] := by
  intro rest
  cases h : splitTag none rest <;> simp [Except.map, h]

theorem append {cs ds : List Char} (hcs : StaysInTag cs) (hds : StaysInTag ds) :
    StaysInTag (cs ++ ds) := by
  intro rest
  rw [List.append_assoc, hcs, hds]
  cases splitTag none rest <;> simp [Except.map]

theorem of_forall {cs : List Char} (h : ∀ c ∈ cs, c ∉ ['"', '\'', '>']) : StaysInTag cs := by
  induction cs with
  | nil => exact nil
  | cons c cs ih =>
    intro rest
    have hc := h c List.mem_cons_self
    simp only [List.mem_cons, List.not_mem_nil, or_false, not_or] at hc
    obtain ⟨hdouble, hsingle, hclose⟩ := hc
    have hrest := ih (fun d hd => h d (List.mem_cons_of_mem _ hd)) rest
    simp only [List.cons_append, splitTag, hclose, hdouble, hsingle, or_self, if_false, hrest]
    cases splitTag none rest <;> rfl

/-- What is in quotes stays in the tag. -/
theorem quoted {quote : Char} (hquote : quote = '"' ∨ quote = '\'') {value : List Char}
    (hvalue : quote ∉ value) : StaysInTag (quote :: (value ++ [quote])) := by
  intro rest
  have hopen : ∀ value : List Char, quote ∉ value →
      splitTag (some quote) (value ++ quote :: rest) =
        (splitTag none rest).map fun p => (value ++ quote :: p.1, p.2) := by
    intro value
    induction value with
    | nil =>
      intro _
      simp only [List.nil_append, splitTag, if_true]
    | cons c value ih =>
      intro hnot
      have hc : c ≠ quote := fun heq => hnot (heq ▸ List.mem_cons_self)
      have hrest := ih fun hmem => hnot (List.mem_cons_of_mem _ hmem)
      simp only [List.cons_append, splitTag, hc, if_false, hrest]
      cases splitTag none rest <;> rfl
  have hclose : quote ≠ '>' := by
    rcases hquote with rfl | rfl <;> decide
  simp only [List.cons_append, List.append_assoc, List.nil_append, splitTag, hclose, hquote,
    if_false, if_true, hopen value hvalue]
  cases splitTag none rest <;> rfl

end StaysInTag

/-- A tag ends at the first closing bracket behind what stays in it. -/
theorem splitTag_of_staysInTag {cs : List Char} (h : StaysInTag cs) (rest : List Char) :
    splitTag none (cs ++ '>' :: rest) = .ok (cs, rest) := by
  rw [h]
  simp [splitTag, Except.map]

theorem IsGap.staysInTag {gap : List Char} (h : IsGap gap) : StaysInTag gap := by
  refine .of_forall fun c hc hmem => ?_
  have hblank := h c hc
  simp only [List.mem_cons, List.not_mem_nil, or_false] at hmem
  rcases hmem with rfl | rfl | rfl <;> simp [isBlank] at hblank

theorem IsName.staysInTag {name : String} (h : IsName name) : StaysInTag name.toList := by
  refine .of_forall fun c hc hmem => ?_
  have hname := h.isNameChar c hc
  simp only [List.mem_cons, List.not_mem_nil, or_false] at hmem
  rcases hmem with rfl | rfl | rfl <;> exact absurd hname (by decide)

theorem IsPlainValue.not_mem {value : String} (h : IsPlainValue value) {quote : Char}
    (hquote : quote = '"' ∨ quote = '\'') : quote ∉ value.toList := by
  intro hmem
  have hplain := h quote hmem
  rcases hquote with rfl | rfl <;> simp at hplain

/-- An attribute stays in the tag if its value does not close its quotes. -/
theorem staysInTag_attribute {a : Attribute} {gap before after cs : List Char} {quote : Char}
    (hname : IsName a.key) (hgap : IsGap gap) (hbefore : IsGap before) (hafter : IsGap after)
    (hquote : quote = '"' ∨ quote = '\'') (hvalue : quote ∉ a.value.toList) (h : StaysInTag cs) :
    StaysInTag (gap ++ (a.key.toList ++ (before ++ '=' :: (after ++ quote ::
      (a.value.toList ++ quote :: cs))))) := by
  have hsign : StaysInTag ['='] := .of_forall (by simp)
  have hall := hgap.staysInTag.append (hname.staysInTag.append (hbefore.staysInTag.append
    (hsign.append (hafter.staysInTag.append ((StaysInTag.quoted hquote hvalue).append h)))))
  simpa only [List.cons_append, List.append_assoc, List.nil_append] using hall

theorem AttributesWritten.staysInTag {attributes : List Attribute} {cs : List Char}
    (h : AttributesWritten attributes cs) (hkeys : ∀ a ∈ attributes, IsName a.key)
    (hvalues : ∀ a ∈ attributes, IsPlainValue a.value) : StaysInTag cs := by
  induction h with
  | nil hgap => exact hgap.staysInTag
  | cons hblank hgap hbefore hafter hquote h ih =>
    rw [List.forall_mem_cons] at hkeys hvalues
    exact staysInTag_attribute hkeys.1 (List.forall_mem_cons.2 ⟨hblank, hgap⟩) hbefore hafter
      hquote (hvalues.1.not_mem hquote) (ih hkeys.2 hvalues.2)

/-! ## Attributes -/

/-- An attribute may be written in any of the ways in which it is read. -/
theorem AttributesWritten.areAttributes {attributes : List Attribute} {cs : List Char}
    (h : AttributesWritten attributes cs) (hkeys : ∀ a ∈ attributes, IsName a.key)
    (hvalues : ∀ a ∈ attributes, IsPlainValue a.value) : AreAttributes attributes cs := by
  induction h with
  | nil hgap => exact .nil hgap
  | cons hblank hgap hbefore hafter hquote h ih =>
    rw [List.forall_mem_cons] at hkeys hvalues
    exact .cons (.mk (List.forall_mem_cons.2 ⟨hblank, hgap⟩) hkeys.1.isKey hbefore hafter hquote
      (hvalues.1.not_mem hquote)) (ih hkeys.2 hvalues.2)

/-! ## Contents of tags -/

/-- A tag that has the same attributes in another order. -/
structure Tag.Reorders (tag tag' : Tag) : Prop where
  /-- The name is the same. -/
  name : tag'.name = tag.name
  /-- The attributes are the same in another order. -/
  attributes : tag'.attributes.Perm tag.attributes
  /-- No two of them have the same key. -/
  keys_nodup : (tag.attributes.map Attribute.key).Nodup

/-- With distinct keys, a value is that of the attribute with the key. -/
theorem Tag.value?_eq_some_iff {tag : Tag} (h : (tag.attributes.map Attribute.key).Nodup)
    {key value : String} : tag.value? key = some value ↔ ⟨key, value⟩ ∈ tag.attributes := by
  obtain ⟨name, attributes⟩ := tag
  unfold Tag.value?
  dsimp only at h ⊢
  induction attributes with
  | nil => simp
  | cons a attributes ih =>
    obtain ⟨key', value'⟩ := a
    rw [List.map_cons, List.nodup_cons] at h
    rw [List.find?_cons, List.mem_cons, Attribute.mk.injEq]
    by_cases hkey : key' = key
    · subst hkey
      have hother : (⟨key', value⟩ : Attribute) ∉ attributes := fun hmem =>
        h.1 (List.mem_map.2 ⟨_, hmem, rfl⟩)
      simp [hother, eq_comm]
    · simp only [beq_eq_false_iff_ne.2 hkey, Ne.symm hkey, false_and, false_or, ih h.2]

/-- The order of the attributes does not matter to their values. -/
theorem Tag.Reorders.value?_eq {tag tag' : Tag} (h : tag.Reorders tag') (key : String) :
    tag'.value? key = tag.value? key := by
  have hnodup : (tag'.attributes.map Attribute.key).Nodup :=
    (h.attributes.map Attribute.key).nodup_iff.2 h.keys_nodup
  ext value
  rw [Tag.value?_eq_some_iff hnodup, Tag.value?_eq_some_iff h.keys_nodup, h.attributes.mem_iff]

theorem AttributesWritten.takeWhile_eq {attributes : List Attribute} {cs : List Char}
    (h : AttributesWritten attributes cs) :
    cs.takeWhile (!isBlank ·) = [] ∧ cs.dropWhile (!isBlank ·) = cs := by
  cases h with
  | nil hgap =>
    cases cs with
    | nil => exact ⟨rfl, rfl⟩
    | cons c cs =>
      have hc := hgap c List.mem_cons_self
      exact ⟨List.takeWhile_cons_of_neg (by simp [hc]), List.dropWhile_cons_of_neg (by simp [hc])⟩
  | cons hblank =>
    exact ⟨List.takeWhile_cons_of_neg (by simp [hblank]),
      List.dropWhile_cons_of_neg (by simp [hblank])⟩

/-- Attributes end with a blank or a quote. -/
theorem AttributesWritten.getLast?_ne {attributes : List Attribute} {cs : List Char}
    (h : AttributesWritten attributes cs) : cs.getLast? ≠ some '/' := by
  induction h with
  | nil hgap =>
    intro hlast
    exact absurd (hgap _ (List.mem_of_getLast? hlast)) (by decide)
  | @cons a attributes blank quote gap before after cs hblank hgap hbefore hafter hquote h ih =>
    have hquoteLast : quote ≠ '/' := by
      rcases hquote with rfl | rfl <;> decide
    have hlast (front : List Char) : (front ++ quote :: cs).getLast? ≠ some '/' := by
      rw [List.getLast?_append, List.getLast?_cons, Option.some_or]
      cases hcs : cs.getLast? with
      | none => simpa using hquoteLast
      | some c => simpa [hcs] using ih
    simpa only [List.cons_append, List.append_assoc, List.nil_append] using
      hlast (blank :: gap ++ a.key.toList ++ before ++ '=' :: after ++ quote :: a.value.toList)

section Contents

variable {name : String} (h : IsName name) {attributes : List Attribute} {cs : List Char}
  (hwritten : AttributesWritten attributes cs)

include h hwritten

/-- A name ends where attributes begin. -/
theorem ofContent_append : Tag.ofContent (name.toList ++ cs) = ⟨name, readAttributes [] cs⟩ := by
  have hname : ∀ c ∈ name.toList, (!isBlank c) = true := fun c hc => by
    rw [isBlank_eq_false_of_isNameChar (h.isNameChar c hc)]
    rfl
  obtain ⟨htake, hdrop⟩ := hwritten.takeWhile_eq
  unfold Tag.ofContent
  rw [List.takeWhile_append_of_pos hname, List.dropWhile_append_of_pos hname, htake, hdrop,
    List.append_nil, String.ofList_toList]

/-- A name with attributes begins as a name does, and does not end with a slash. -/
theorem head_and_getLast?_append :
    (∃ d ds, name.toList ++ cs = d :: ds ∧ isNameStart d = true) ∧
      (name.toList ++ cs).getLast? ≠ some '/' := by
  obtain ⟨d, ds, heq, hd, -⟩ := id h
  refine ⟨⟨d, _, by rw [heq]; rfl, hd⟩, ?_⟩
  intro hslash
  rw [List.getLast?_append, Option.or_eq_some_iff] at hslash
  rcases hslash with hattributes | ⟨-, hname⟩
  · exact hwritten.getLast?_ne hattributes
  · exact ne_of_isNameChar (h.isNameChar _ (List.mem_of_getLast? hname)) (d := '/') (by decide) rfl

end Contents

namespace TagWritten

variable {tag : Tag} {content : List Char}

theorem staysInTag (h : TagWritten tag content) : StaysInTag content := by
  obtain ⟨hlawful, horder, hwritten⟩ := h
  refine hlawful.name.staysInTag.append (hwritten.staysInTag ?_ ?_)
  · exact fun a ha => hlawful.keys a (horder.mem_iff.1 ha)
  · exact fun a ha => hlawful.values a (horder.mem_iff.1 ha)

/-- What is read of a written tag is the tag, with its attributes in the order in
which they are written. -/
theorem reorders_ofContent (h : TagWritten tag content) :
    tag.Reorders (Tag.ofContent content) := by
  obtain @⟨attributes, cs, hlawful, horder, hwritten⟩ := h
  have hwell : AreAttributes attributes cs := hwritten.areAttributes
    (fun a ha => hlawful.keys a (horder.mem_iff.1 ha))
    (fun a ha => hlawful.values a (horder.mem_iff.1 ha))
  have hnodup := (horder.map Attribute.key).nodup_iff.2 hlawful.keys_nodup
  have hattributes := readAttributes_of_areAttributes hwell hnodup
  rw [ofContent_append hlawful.name hwritten, hattributes]
  exact ⟨rfl, horder, hlawful.keys_nodup⟩

/-- A written tag begins with a name and does not end with a slash. -/
theorem head_and_getLast? (h : TagWritten tag content) :
    (∃ c cs, content = c :: cs ∧ isNameStart c = true) ∧ content.getLast? ≠ some '/' := by
  obtain ⟨hlawful, horder, hwritten⟩ := h
  exact head_and_getLast?_append hlawful.name hwritten

end TagWritten

/-! ## Events -/

/-- The events that elements are spelled by, whatever stands between them. -/
inductive Spells : List Element → List Event → Prop where
  /-- no element -/
  | nil : Spells [] []
  /-- something between elements -/
  | aside {elements : List Element} {events : List Event} (h : Spells elements events) :
    Spells elements (.aside :: events)
  /-- an element without content, as one event -/
  | single {tag tag' : Tag} {elements : List Element} {events : List Event}
    (htag : tag.Reorders tag') (h : Spells elements events) :
    Spells (⟨tag, []⟩ :: elements) (.childless tag' :: events)
  /-- an element between two events -/
  | pair {tag tag' : Tag} {children elements : List Element} {inner events : List Event}
    (htag : tag.Reorders tag') (hinner : Spells children inner) (h : Spells elements events) :
    Spells (⟨tag, children⟩ :: elements) (.opened tag' :: (inner ++ .closed :: events))

/-- A piece that is no markup of another kind is a tag. -/
theorem readPiece_of_staysInTag {content : List Char} (h : StaysInTag content) {c : Char}
    {cs : List Char} (hhead : content = c :: cs) (hbang : c ≠ '!') (hquestion : c ≠ '?')
    (rest : List Char) : readPiece (content ++ '>' :: rest) = .ok (.tag content, rest) := by
  have hsplit := splitTag_of_staysInTag h rest
  subst hhead
  rw [List.cons_append] at hsplit ⊢
  unfold readPiece
  split
  · simp_all
  · simp_all
  · rw [hsplit]
    rfl

/-- A start tag opens the element that its content names. -/
theorem readEvents_startTag {content : List Char} (h : StaysInTag content) {c : Char}
    {cs : List Char} (hhead : content = c :: cs) (hc : isNameStart c = true)
    (hlast : content.getLast? ≠ some '/') (openNames : List String) (rest : List Char) :
    readEvents openNames ('<' :: (content ++ '>' :: rest)) =
      (readEvents ((Tag.ofContent content).name :: openNames) rest).cons
        (.opened (Tag.ofContent content)) := by
  have hname := isNameChar_of_isNameStart hc
  have hpiece := readPiece_of_staysInTag h hhead
    (ne_of_isNameChar hname (by decide)) (ne_of_isNameChar hname (by decide)) rest
  have hevent : tagEvent openNames content =
      .ok (.opened (Tag.ofContent content), (Tag.ofContent content).name :: openNames) := by
    unfold tagEvent
    split
    · exact absurd (List.cons.inj hhead).1.symm (ne_of_isNameChar hname (by decide))
    · rw [if_neg hlast]
  rw [readEvents_open, hpiece]
  dsimp only
  rw [hevent]

/-- The start tag of a written element opens it. -/
theorem readEvents_opened {tag : Tag} {content : List Char} (h : TagWritten tag content)
    (openNames : List String) (rest : List Char) :
    readEvents openNames ('<' :: (content ++ '>' :: rest)) =
      (readEvents (tag.name :: openNames) rest).cons (.opened (Tag.ofContent content)) := by
  obtain ⟨⟨c, cs, hhead, hc⟩, hlast⟩ := h.head_and_getLast?
  rw [readEvents_startTag h.staysInTag hhead hc hlast, h.reorders_ofContent.name]

/-- A single tag is read as an element without content. -/
theorem readEvents_single {tag : Tag} {content : List Char} (h : TagWritten tag content)
    (openNames : List String) (rest : List Char) :
    readEvents openNames ('<' :: (content ++ '/' :: '>' :: rest)) =
      (readEvents openNames rest).cons (.childless (Tag.ofContent content)) := by
  obtain ⟨⟨c, cs, hhead, hc⟩, -⟩ := h.head_and_getLast?
  have hname := isNameChar_of_isNameStart hc
  have hsign : StaysInTag ['/'] := .of_forall (by simp)
  have hslash : StaysInTag (content ++ ['/']) := h.staysInTag.append hsign
  have hpiece := readPiece_of_staysInTag hslash (by rw [hhead]; rfl)
    (ne_of_isNameChar hname (by decide)) (ne_of_isNameChar hname (by decide)) rest
  have hevent : tagEvent openNames (content ++ ['/']) =
      .ok (.childless (Tag.ofContent content), openNames) := by
    unfold tagEvent
    split
    · rename_i name heq
      rw [hhead] at heq
      exact absurd (List.cons.inj heq).1 (ne_of_isNameChar hname (by decide))
    · rw [if_pos (by simp), List.dropLast_concat]
  rw [List.append_assoc, List.singleton_append] at hpiece
  rw [readEvents_open, hpiece]
  dsimp only
  rw [hevent]

theorem trimEnd_append {cs gap : List Char} (h : ∀ c ∈ cs, isBlank c = false) (hgap : IsGap gap) :
    trimEnd (cs ++ gap) = cs := by
  have hgapReverse : ∀ c ∈ gap.reverse, isBlank c = true := fun c hc =>
    hgap c (List.mem_reverse.1 hc)
  have hkeep : cs.reverse.dropWhile isBlank = cs.reverse := by
    cases hreverse : cs.reverse with
    | nil => rfl
    | cons c ds =>
      have hc := h c (List.mem_reverse.1 (hreverse ▸ List.mem_cons_self))
      exact List.dropWhile_cons_of_neg (by simp [hc])
  rw [trimEnd, List.reverse_append, List.dropWhile_append_of_pos hgapReverse, hkeep,
    List.reverse_reverse]

/-- The name in an end tag is read without the blanks behind it. -/
theorem endName_append {name : String} (h : IsName name) {gap : List Char} (hgap : IsGap gap) :
    endName (name.toList ++ gap) = name := by
  have hname (c : Char) (hc : c ∈ name.toList) : isBlank c = false :=
    isBlank_eq_false_of_isNameChar (h.isNameChar c hc)
  have hsome : (name.toList ++ gap).all isBlank = false := by
    obtain ⟨c, cs, heq, -⟩ := h
    rw [heq, List.cons_append, List.all_cons, hname c (heq ▸ List.mem_cons_self), Bool.false_and]
  rw [endName, hsome, trimEnd_append hname hgap]
  exact String.ofList_toList

/-- The end tag of the innermost open element closes it. -/
theorem readEvents_closed {name : String} (h : IsName name) {gap : List Char}
    (hgap : IsGap gap) (openNames : List String) (rest : List Char) :
    readEvents (name :: openNames) ('<' :: '/' :: (name.toList ++ gap ++ '>' :: rest)) =
      (readEvents openNames rest).cons .closed := by
  have hsign : StaysInTag ['/'] := .of_forall (by simp)
  have hslash : StaysInTag ('/' :: (name.toList ++ gap)) :=
    hsign.append (h.staysInTag.append hgap.staysInTag)
  have hpiece := readPiece_of_staysInTag hslash rfl (by decide) (by decide) rest
  have hevent : tagEvent (name :: openNames) ('/' :: (name.toList ++ gap)) =
      .ok (.closed, openNames) := by
    simp only [tagEvent, endName_append h hgap, closeElement, if_true]
    rfl
  rw [List.cons_append] at hpiece
  rw [readEvents_open, hpiece]
  dsimp only
  rw [hevent]

/-- Whatever follows, the events of written elements are read first, and they spell
the elements. -/
theorem readEvents_of_written {elements : List Element} {cs : List Char}
    (h : Written elements cs) :
    ∃ events, Spells elements events ∧ ∀ openNames rest,
      readEvents openNames (cs ++ rest) =
        events.foldr Reading.cons (readEvents openNames rest) := by
  induction h with
  | nil => exact ⟨[], .nil, fun _ _ => rfl⟩
  | @filler elements piece cs hpiece h ih =>
    obtain ⟨events, hspells, hread⟩ := ih
    rcases readEvents_filler hpiece with hnone | haside
    · refine ⟨events, hspells, fun openNames rest => ?_⟩
      rw [List.append_assoc, hnone, hread]
    · refine ⟨.aside :: events, .aside hspells, fun openNames rest => ?_⟩
      rw [List.append_assoc, haside, hread, List.foldr_cons]
  | single htag h ih =>
    obtain ⟨events, hspells, hread⟩ := ih
    refine ⟨_, .single htag.reorders_ofContent hspells, fun openNames rest => ?_⟩
    rw [List.foldr_cons, ← hread openNames rest, ← readEvents_single htag]
    simp only [List.cons_append, List.append_assoc]
  | @pair tag children elements content inner gap cs htag hinner hgap h ihinner ih =>
    obtain ⟨innerEvents, hinnerSpells, hinnerRead⟩ := ihinner
    obtain ⟨events, hspells, hread⟩ := ih
    refine ⟨_, .pair htag.reorders_ofContent hinnerSpells hspells, fun openNames rest => ?_⟩
    have hname : IsName tag.name := by
      obtain ⟨hlawful, -, -⟩ := htag
      exact hlawful.name
    rw [List.foldr_cons, List.foldr_append, List.foldr_cons, ← hread openNames rest,
      ← readEvents_closed hname hgap, ← hinnerRead, ← readEvents_opened htag]
    simp only [List.cons_append, List.append_assoc]

/-- The events of a text that is read without a fault. -/
theorem foldr_cons_eq (events : List Event) (reading : Reading) :
    events.foldr Reading.cons reading = ⟨events ++ reading.events, reading.ending⟩ := by
  induction events with
  | nil => rfl
  | cons event events ih =>
    rw [List.foldr_cons, ih]
    rfl

/-- A written text does not begin with the mark of an encoding. -/
theorem head?_ne_of_written {elements : List Element} {cs : List Char}
    (h : Written elements cs) : cs.head? ≠ some '\uFEFF' := by
  induction h with
  | nil => simp
  | filler hpiece h ih =>
    cases hpiece with
    | blank hc =>
      rintro hhead
      obtain rfl := Option.some.inj hhead
      exact absurd hc (by decide)
    | comment | instruction => simp
  | single | pair => simp

/-- A text that is read as events, whatever follows it, has these events and no others. -/
theorem ofText_of_readEvents {text : String} (hhead : text.toList.head? ≠ some '\uFEFF')
    {events : List Event}
    (hread : ∀ openNames rest, readEvents openNames (text.toList ++ rest) =
      events.foldr Reading.cons (readEvents openNames rest)) :
    Reading.ofText text = ⟨events, .complete⟩ := by
  have hmark : withoutByteOrderMark text = text.toList := by
    unfold withoutByteOrderMark
    split
    · rename_i cs heq
      exact absurd (by rw [heq]; rfl) hhead
    · rfl
  have hend : readEvents [] [] = ⟨[], .complete⟩ := by
    rw [readEvents_eq]
    rfl
  rw [Reading.ofText, hmark, ← List.append_nil text.toList, hread, hend, foldr_cons_eq,
    List.append_nil]

/-- A text in which elements are written is read to its end, and its events spell
the elements. -/
theorem ofText_of_written {elements : List Element} {text : String}
    (h : Written elements text.toList) :
    ∃ events, Spells elements events ∧ Reading.ofText text = ⟨events, .complete⟩ := by
  obtain ⟨events, hspells, hread⟩ := readEvents_of_written h
  exact ⟨events, hspells, ofText_of_readEvents (head?_ne_of_written h) hread⟩

/-! ## Passing over elements -/

theorem Spells.nested {elements : List Element} {events : List Event}
    (h : Spells elements events) : Nested events := by
  induction h with
  | nil => exact .nil
  | aside _ ih => exact .aside ih
  | single _ _ ih => exact .childless ih
  | pair _ _ _ ihinner ih => exact .element ihinner ih

/-- An element ends at its own end tag. -/
theorem afterElement?_closed {elements : List Element} {events : List Event}
    (h : Spells elements events) (rest : List Event) :
    afterElement? 0 (events ++ .closed :: rest) = some rest :=
  afterElement?_eq_some_iff_nested.2 ⟨events, h.nested, rfl⟩

end TypeProjection.Markup
