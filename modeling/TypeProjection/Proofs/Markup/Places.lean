/-
  Proofs/Markup/Places.lean --- where a tag stands in a text.

  Up to a tag a text has been read as some events, whatever follows.  So the tag can be
  exchanged for another one without a change to the events in front (`Place.ofText_withTag`),
  and every tag that is read stands at such a place (`exists_place`).
-/
import Mathlib.Data.List.TakeWhile
import TypeProjection.Proofs.Markup.Scanning

set_option autoImplicit false

namespace TypeProjection.Markup

/-! ## Texts that are read as events -/

/-- With some elements open, a text is read as events that leave others open, whatever
follows it. -/
def ReadsAs (openNames : List String) (text : List Char) (events : List Event)
    (openNames' : List String) : Prop :=
  ∀ rest, readEvents openNames (text ++ rest) =
    events.foldr Reading.cons (readEvents openNames' rest)

namespace ReadsAs

variable {openNames openNames' openNames'' : List String} {text text' : List Char}
  {events events' : List Event}

theorem append (h : ReadsAs openNames text events openNames')
    (h' : ReadsAs openNames' text' events' openNames'') :
    ReadsAs openNames (text ++ text') (events ++ events') openNames'' := by
  intro rest
  rw [List.append_assoc, h, h', List.foldr_append]

/-- Text between pieces gives no event. -/
theorem of_skipText (h : ∀ rest, skipText false (text ++ rest) = skipText false rest) :
    ReadsAs openNames text [] openNames := by
  intro rest
  rw [readEvents_eq, readEvents_eq openNames rest, h]
  rfl

/-- Markup beside the elements gives an event of its own. -/
theorem of_aside (h : ∀ rest, readPiece (text ++ rest) = .ok (.aside, rest)) :
    ReadsAs openNames ('<' :: text) [.aside] openNames := by
  intro rest
  rw [List.cons_append, readEvents_open, h]
  rfl

end ReadsAs

/-- What can stand between the brackets of a tag. -/
structure IsContent (content : List Char) : Prop where
  /-- No bracket in it closes the tag, and no quote is left open. -/
  stays : StaysInTag content
  /-- It does not begin like a comment. -/
  bang : content.head? ≠ some '!'
  /-- It does not begin like an instruction. -/
  question : content.head? ≠ some '?'

theorem isContent_iff {content : List Char} :
    IsContent content ↔ readPiece (content ++ ['>']) = .ok (.tag content, []) := by
  rw [readPiece_eq_tag_iff]
  exact ⟨fun h => ⟨rfl, h.stays, h.bang, h.question⟩, fun h => ⟨h.2.1, h.2.2.1, h.2.2.2⟩⟩

instance : DecidablePred IsContent := fun _ =>
  decidable_of_iff _ isContent_iff.symm

/-- A tag gives an event, and opens or closes an element. -/
theorem ReadsAs.of_tagEvent {openNames openNames' : List String} {content : List Char}
    {event : Event} (h : IsContent content)
    (hevent : tagEvent openNames content = .ok (event, openNames')) :
    ReadsAs openNames ('<' :: (content ++ ['>'])) [event] openNames' := by
  intro rest
  have hpiece : readPiece (content ++ ['>'] ++ rest) = .ok (.tag content, rest) :=
    readPiece_eq_tag_iff.2 ⟨List.append_assoc .., h.stays, h.bang, h.question⟩
  rw [List.cons_append, readEvents_open, hpiece]
  dsimp only
  rw [hevent]
  rfl

/-! ## Places of tags -/

/-- Every tag that is read stands behind a text that is read as the events in front of it,
whatever follows. -/
theorem exists_readsAs_of_events {openNames : List String} {text : List Char}
    {front back : List Event} {event : Event}
    (h : (readEvents openNames text).events = front ++ event :: back) (hevent : event ≠ .aside) :
    ∃ before openNames' content behind openNames'',
      text = before ++ '<' :: (content ++ '>' :: behind) ∧
      ReadsAs openNames before front openNames' ∧ IsContent content ∧
      tagEvent openNames' content = .ok (event, openNames'') := by
  fun_induction readEvents openNames text generalizing front with
  | case1 | case2 | case3 | case5 => simp at h
  | case4 openNames text markup htext rest hpiece ih =>
    obtain ⟨skipped, rfl, hskip⟩ := exists_used_of_skipText htext
    obtain ⟨used, rfl, hread⟩ := exists_used_of_readPiece hpiece
    cases front with
    | nil => exact absurd (List.cons.inj h).1.symm hevent
    | cons first front =>
      obtain ⟨rfl, hrest⟩ := List.cons.inj h
      obtain ⟨before, openNames', content, behind, openNames'', rfl, hbefore, hcontent, htag⟩ :=
        ih hrest
      have hreads : ReadsAs openNames (skipped ++ '<' :: used ++ before) (.aside :: front)
          openNames' := ((ReadsAs.of_skipText hskip).append (.of_aside hread)).append hbefore
      exact ⟨_, openNames', content, behind, openNames'', by simp, hreads, hcontent, htag⟩
  | case6 openNames text markup htext content rest hpiece event' openNames' htag ih =>
    obtain ⟨skipped, rfl, hskip⟩ := exists_used_of_skipText htext
    obtain ⟨rfl, hstays, hbang, hquestion⟩ := readPiece_eq_tag_iff.1 hpiece
    have hcontent : IsContent content := ⟨hstays, hbang, hquestion⟩
    have hskipped : ReadsAs openNames skipped [] openNames := .of_skipText hskip
    cases front with
    | nil =>
      obtain ⟨rfl, -⟩ := List.cons.inj h
      exact ⟨skipped, openNames, content, rest, openNames', rfl, hskipped, hcontent, htag⟩
    | cons first front =>
      obtain ⟨rfl, hrest⟩ := List.cons.inj h
      obtain ⟨before, openNames'', content', behind, openNames₃, rfl, hbefore, hcontent', htag'⟩ :=
        ih hrest
      have hreads : ReadsAs openNames (skipped ++ '<' :: (content ++ ['>']) ++ before)
          (event' :: front) openNames'' :=
        (hskipped.append (.of_tagEvent hcontent htag)).append hbefore
      exact ⟨_, openNames'', content', behind, openNames₃, by simp, hreads, hcontent', htag'⟩

/-- A place in a text where a tag can stand: what is in front of it is read as some events,
whatever follows. -/
structure Place where
  /-- The text in front. -/
  before : List Char
  /-- What the text in front is read as. -/
  front : List Event
  /-- The elements that are open at the place, from the inside. -/
  openNames : List String
  /-- What is in front is read as its events, whatever follows. -/
  reads : ReadsAs [] before front openNames

namespace Place

/-- A text with a tag at a place. -/
def withTag (place : Place) (content behind : List Char) : List Char :=
  place.before ++ '<' :: (content ++ '>' :: behind)

/-- What is read of a text with a place in it: the events in front of the place, and then
those behind it. -/
theorem ofText_append {place : Place} {behind : List Char} {text : String}
    (htext : withoutByteOrderMark text = place.before ++ behind) :
    Reading.ofText text =
      ⟨place.front ++ (readEvents place.openNames behind).events,
        (readEvents place.openNames behind).ending⟩ := by
  rw [Reading.ofText, htext, place.reads, foldr_cons_eq]

theorem ofText_withTag {place : Place} {content behind : List Char} {openNames' : List String}
    {event : Event} {text : String}
    (htext : withoutByteOrderMark text = place.withTag content behind)
    (hcontent : IsContent content)
    (htag : tagEvent place.openNames content = .ok (event, openNames')) :
    Reading.ofText text =
      ⟨place.front ++ event :: (readEvents openNames' behind).events,
        (readEvents openNames' behind).ending⟩ := by
  have hread := ReadsAs.of_tagEvent hcontent htag behind
  have hsplit : '<' :: (content ++ '>' :: behind) = '<' :: (content ++ ['>']) ++ behind := by
    simp
  rw [ofText_append htext, hsplit, hread]
  rfl

end Place

/-- Every tag of a text stands at a place. -/
theorem exists_place {text : String} {front back : List Event} {event : Event}
    (h : (Reading.ofText text).events = front ++ event :: back) (hevent : event ≠ .aside) :
    ∃ (place : Place) (content behind : List Char) (openNames' : List String),
      place.front = front ∧ withoutByteOrderMark text = place.withTag content behind ∧
      IsContent content ∧ tagEvent place.openNames content = .ok (event, openNames') := by
  obtain ⟨before, openNames, content, behind, openNames', htext, hreads, hcontent, htag⟩ :=
    exists_readsAs_of_events h hevent
  exact ⟨⟨before, front, openNames, hreads⟩, content, behind, openNames', rfl, htext, hcontent,
    htag⟩

/-! ## Tags of elements -/

/-- The event of a tag that begins an element, and that ends it as well if it is a single
tag. -/
def Tag.event (tag : Tag) : (single : Bool) → Event
  | true => .childless tag
  | false => .opened tag

/-- What stands between the brackets of such a tag. -/
def slashed (content : List Char) : (single : Bool) → List Char
  | true => content ++ ['/']
  | false => content

/-- The elements that are open behind such a tag. -/
def Tag.openBehind (tag : Tag) (openNames : List String) : (single : Bool) → List String
  | true => openNames
  | false => tag.name :: openNames

/-- A tag that begins an element is a start tag, or a single tag with a slash at its end. -/
theorem exists_of_tagEvent {openNames openNames' : List String} {content : List Char} {tag : Tag}
    (single : Bool) (h : tagEvent openNames content = .ok (tag.event single, openNames')) :
    content.head? ≠ some '/' ∧ ∃ content', content = slashed content' single ∧
      Tag.ofContent content' = tag ∧ openNames' = tag.openBehind openNames single := by
  unfold tagEvent at h
  split at h
  · obtain ⟨_, -, heq⟩ := map_eq_ok_iff.1 h
    cases single <;> cases heq
  rename_i hend
  refine ⟨fun hhead => ?_, ?_⟩
  · obtain ⟨cs, rfl⟩ := List.head?_eq_some_iff.1 hhead
    exact hend cs rfl
  split at h
  · rename_i hlast
    obtain ⟨htag, hnames⟩ := Prod.mk.inj (Except.ok.inj h)
    cases single with
    | true =>
      refine ⟨content.dropLast, (List.dropLast_append_getLast? _ hlast).symm, ?_, hnames.symm⟩
      exact Event.childless.inj htag
    | false => cases htag
  · obtain ⟨htag, hnames⟩ := Prod.mk.inj (Except.ok.inj h)
    cases single with
    | true => cases htag
    | false =>
      obtain rfl := Event.opened.inj htag
      exact ⟨content, rfl, rfl, hnames.symm⟩

/-- What an element can be written with, in a start tag and in a single tag. -/
structure ElementContent (content : List Char) : Prop where
  /-- It can stand in a tag. -/
  inTag : IsContent content
  /-- There is something. -/
  ne_nil : content ≠ []
  /-- It does not begin as an end tag does. -/
  head : content.head? ≠ some '/'
  /-- It does not end as a single tag does. -/
  last : content.getLast? ≠ some '/'

theorem staysInTag_slash : StaysInTag ['/'] :=
  .of_forall (by simp)

namespace ElementContent

variable {content : List Char} (h : ElementContent content)

include h

theorem isContent_slashed (single : Bool) : IsContent (slashed content single) := by
  cases single with
  | true =>
    obtain ⟨c, cs, rfl⟩ := List.exists_cons_of_ne_nil h.ne_nil
    exact ⟨h.inTag.stays.append staysInTag_slash, h.inTag.bang, h.inTag.question⟩
  | false => exact h.inTag

theorem tagEvent_slashed (openNames : List String) (single : Bool) :
    tagEvent openNames (slashed content single) =
      .ok ((Tag.ofContent content).event single,
        (Tag.ofContent content).openBehind openNames single) := by
  cases single with
  | true =>
    show tagEvent openNames (content ++ ['/']) = _
    unfold tagEvent
    split
    · rename_i name heq
      obtain ⟨c, cs, rfl⟩ := List.exists_cons_of_ne_nil h.ne_nil
      exact absurd (congrArg some (List.cons.inj heq).1) h.head
    · rw [if_pos (by simp), List.dropLast_concat]
      rfl
  | false =>
    show tagEvent openNames content = _
    unfold tagEvent
    split
    · exact absurd rfl h.head
    · rw [if_neg h.last]
      rfl

end ElementContent

/-- The place behind a start tag that a text begins with. -/
def Place.behindStart (content : List Char) (h : ElementContent content) : Place where
  before := '<' :: (content ++ ['>'])
  front := [.opened (.ofContent content)]
  openNames := [(Tag.ofContent content).name]
  reads := .of_tagEvent h.inTag (h.tagEvent_slashed [] false)

/-! ## Elements without content -/

/-- What an element without content can be written with, as one tag or as two. -/
structure Respellable (content : List Char) : Prop extends ElementContent content where
  /-- The name can stand in a tag of its own. -/
  name : StaysInTag (content.takeWhile (!isBlank ·))

theorem Respellable.isContent_closed {content : List Char} (h : Respellable content) :
    IsContent ('/' :: content.takeWhile (!isBlank ·)) where
  stays := staysInTag_slash.append h.name
  bang := by simp
  question := by simp

/-- The characters in front of the first blank are none. -/
theorem isBlank_of_mem_takeWhile {content : List Char} {c : Char}
    (h : c ∈ content.takeWhile (!isBlank ·)) : isBlank c = false := by
  simpa using List.mem_takeWhile_imp h

/-- A name without blanks is read as it is in an end tag. -/
theorem endName_takeWhile (content : List Char) :
    endName (content.takeWhile (!isBlank ·)) = (Tag.ofContent content).name := by
  have htrim : trimEnd (content.takeWhile (!isBlank ·) ++ []) = content.takeWhile (!isBlank ·) :=
    trimEnd_append (fun _ => isBlank_of_mem_takeWhile) isGap_nil
  rw [List.append_nil] at htrim
  rw [endName, htrim, ite_self]
  rfl

theorem tagEvent_closed (content : List Char) (openNames : List String) :
    tagEvent ((Tag.ofContent content).name :: openNames) ('/' :: content.takeWhile (!isBlank ·)) =
      .ok (.closed, openNames) := by
  simp only [tagEvent, endName_takeWhile, closeElement, if_true]
  rfl

end TypeProjection.Markup
