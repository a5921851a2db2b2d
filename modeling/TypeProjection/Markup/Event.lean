/-
  Markup/Event.lean --- a markup text as a list of events.

  Tags become events, and end tags are matched against the elements that are
  open.  Elements that are still open at the end of a text are no fault of the
  text: whoever reads the events decides what is missing.
-/
import TypeProjection.Markup.Attribute
import TypeProjection.Markup.Piece

set_option autoImplicit false

namespace TypeProjection.Markup

/-- The name and the attributes of an element. -/
structure Tag where
  /-- What stands before the first blank of the tag. -/
  name : String
  /-- The attributes that can be read, in order, with distinct keys. -/
  attributes : List Attribute
  deriving DecidableEq, Repr, Inhabited

/-- The value of an attribute. -/
def Tag.value? (tag : Tag) (key : String) : Option String :=
  (tag.attributes.find? fun a => a.key == key).map Attribute.value

/-- What a reader of markup meets. -/
inductive Event where
  /-- the start tag of an element -/
  | opened (tag : Tag)
  /-- the end tag of the innermost open element -/
  | closed
  /-- an element written as a single tag -/
  | childless (tag : Tag)
  /-- markup beside the elements -/
  | aside
  deriving DecidableEq, Repr, Inhabited

/-- How the events of a text end. -/
inductive Ending where
  /-- at the end of the text -/
  | complete
  /-- at a fault -/
  | broken (fault : Fault)
  deriving DecidableEq, Repr, Inhabited

/-- All that is read from a text. -/
structure Reading where
  /-- The events, in order. -/
  events : List Event
  /-- What comes after them. -/
  ending : Ending
  deriving DecidableEq, Repr, Inhabited

/-- The reading that has one more event in front. -/
def Reading.cons (event : Event) (reading : Reading) : Reading :=
  { reading with events := event :: reading.events }

@[simp] theorem Reading.events_cons (event : Event) (reading : Reading) :
    (reading.cons event).events = event :: reading.events := rfl

@[simp] theorem Reading.ending_cons (event : Event) (reading : Reading) :
    (reading.cons event).ending = reading.ending := rfl

/-! ## Tags -/

/-- The tag with a given content. -/
def Tag.ofContent (content : List Char) : Tag where
  name := String.ofList (content.takeWhile (!isBlank ·))
  attributes := readAttributes [] (content.dropWhile (!isBlank ·))

/-- The name in an end tag, given from behind its slash: blanks at its end do
not count, unless there is nothing else. -/
def endName (content : List Char) : String :=
  String.ofList (if content.all isBlank then content else trimEnd content)

/-- Closes the innermost of the open elements, listed from the inside, if it has
the name of the end tag. -/
def closeElement (name : String) : List String → Except FormFault (List String)
  | [] => .error (.strayEnd name)
  | innermost :: outer =>
    if innermost = name then .ok outer else .error (.crossedEnd innermost name)

/-- The event of a tag, and the elements that are open behind it. -/
def tagEvent (openNames : List String) (content : List Char) :
    Except FormFault (Event × List String) :=
  match content with
  | '/' :: name => (closeElement (endName name) openNames).map fun outer => (.closed, outer)
  | _ =>
    if content.getLast? = some '/' then
      .ok (.childless (.ofContent content.dropLast), openNames)
    else
      let tag := Tag.ofContent content
      .ok (.opened tag, tag.name :: openNames)

/-! ## Texts -/

set_option linter.unusedVariables false in
/-- Reads the events of a text in which the given elements, listed from the
inside, are already open. -/
def readEvents (openNames : List String) (text : List Char) : Reading :=
  match htext : skipText false text with
  | .error fault => ⟨[], .broken fault⟩
  | .ok none => ⟨[], .complete⟩
  | .ok (some markup) =>
    match hpiece : readPiece markup with
    | .error fault => ⟨[], .broken fault⟩
    | .ok (.aside, rest) => (readEvents openNames rest).cons .aside
    | .ok (.tag content, rest) =>
      match tagEvent openNames content with
      | .error fault => ⟨[], .broken (.form fault)⟩
      | .ok (event, openNames') => (readEvents openNames' rest).cons event
termination_by text.length
decreasing_by
  all_goals exact Nat.lt_of_le_of_lt (length_of_readPiece hpiece) (length_of_skipText htext)

/-- The events of a text, one piece at a time. -/
theorem readEvents_eq (openNames : List String) (text : List Char) :
    readEvents openNames text =
      match skipText false text with
      | .error fault => ⟨[], .broken fault⟩
      | .ok none => ⟨[], .complete⟩
      | .ok (some markup) =>
        match readPiece markup with
        | .error fault => ⟨[], .broken fault⟩
        | .ok (.aside, rest) => (readEvents openNames rest).cons .aside
        | .ok (.tag content, rest) =>
          match tagEvent openNames content with
          | .error fault => ⟨[], .broken (.form fault)⟩
          | .ok (event, openNames') => (readEvents openNames' rest).cons event := by
  rw [readEvents]
  split
  · simp_all
  · simp_all
  · rename_i markup htext
    rw [htext]
    dsimp only
    split
    · simp_all
    · simp_all
    · rename_i hpiece
      rw [hpiece]

/-- The characters of a text without the mark of its encoding, which may stand
in front. -/
def withoutByteOrderMark (text : String) : List Char :=
  match text.toList with
  | '\uFEFF' :: cs => cs
  | cs => cs

/-- Reads the events of a text. -/
def Reading.ofText (text : String) : Reading :=
  readEvents [] (withoutByteOrderMark text)

/-! ## Elements -/

/-- What follows the end tag of an element, given the events behind its start
tag; `depth` counts the elements inside it that are open.  Nothing, if the
events end first. -/
def afterElement? : (depth : Nat) → List Event → Option (List Event)
  | _, [] => none
  | depth, .opened _ :: events => afterElement? (depth + 1) events
  | 0, .closed :: events => some events
  | depth + 1, .closed :: events => afterElement? depth events
  | depth, .childless _ :: events => afterElement? depth events
  | depth, .aside :: events => afterElement? depth events

theorem length_of_afterElement? {depth : Nat} {events rest : List Event}
    (h : afterElement? depth events = some rest) : rest.length < events.length := by
  fun_induction afterElement? depth events with
  | case1 => simp at h
  | case3 events => exact Nat.lt_succ_of_le (Nat.le_of_eq (congrArg List.length (Option.some.inj h).symm))
  | case2 _ _ _ ih | case4 _ _ ih | case5 _ _ _ ih | case6 _ _ ih => exact Nat.lt_succ_of_lt (ih h)

end TypeProjection.Markup
