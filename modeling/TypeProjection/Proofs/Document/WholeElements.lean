/-
  Proofs/Document/WholeElements.lean --- readers that take one whole element.

  A reader of an element gets the events behind its start tag.  It takes the whole elements
  inside and the end tag behind them, and looks at nothing else (`ReadsElement`).  All loops
  that read what is inside an element stop at the first end tag that they meet themselves,
  so this is shown of such loops once (`ReadsInside.readsElement`), from the readers that
  they call.
-/
import TypeProjection.Proofs.Markup.Balance
import TypeProjection.Proofs.Markup.Nesting
import TypeProjection.Proofs.Traversal
import TypeProjection.Schema.Reader

set_option autoImplicit false

namespace TypeProjection

open Markup

/-! ## Elements that are passed over -/

theorem passOver_eq_ok_iff {ending : Ending} {events rest : List Event} :
    passOver ending events = .ok rest ↔ afterElement? 0 events = some rest := by
  rw [passOver]
  cases afterElement? 0 events <;> simp

theorem passOver_eq_error_iff {ending : Ending} {events : List Event} {e : ReadError} :
    passOver ending events = .error e ↔
      afterElement? 0 events = none ∧ e = .ofEnding ending unexpectedEnd := by
  rw [passOver]
  cases afterElement? 0 events <;> simp [eq_comm]

theorem passOver_of_nested {inner : List Event} (h : Nested inner) (ending : Ending)
    (rest : List Event) : passOver ending (inner ++ .closed :: rest) = .ok rest :=
  passOver_eq_ok_iff.2 (afterElement?_eq_some_iff_nested.2 ⟨inner, h, rfl⟩)

/-! ## Readers of elements -/

/-- A reader of elements, given the events behind the start tag of one and how they end, that
returns what it read and the events behind the end tag. -/
structure ReadsElement {α : Type}
    (read : Ending → List Event → Except ReadError (α × List Event)) : Prop where
  /-- What is read of an element depends on the whole elements inside it alone, and what
  stands behind its end tag is left as it is. -/
  inside : ∀ inner, Nested inner → ∃ result : Except ReadError α, ∀ ending rest,
    read ending (inner ++ .closed :: rest) = result.map fun a => (a, rest)
  /-- Something is read only of an element that ends. -/
  ends : ∀ ending events a rest, read ending events = .ok (a, rest) →
    ∃ inner, Nested inner ∧ events = inner ++ .closed :: rest

namespace ReadsElement

/-- To pass over an element is to read nothing of it. -/
theorem passOver {α : Type} (a : α) :
    ReadsElement fun ending events => (passOver ending events).map fun rest => (a, rest) where
  inside := by
    intro inner hinner
    refine ⟨.ok a, fun ending rest => ?_⟩
    rw [passOver_of_nested hinner]
    rfl
  ends := by
    intro ending events a' rest h
    obtain ⟨rest', hpass, heq⟩ := map_eq_ok_iff.1 h
    obtain rfl : rest' = rest := congrArg Prod.snd heq
    exact afterElement?_eq_some_iff_nested.1 (passOver_eq_ok_iff.1 hpass)

/-- What is read can be used for something else. -/
theorem map {α β : Type} {read : Ending → List Event → Except ReadError (α × List Event)}
    (h : ReadsElement read) (f : α → β) :
    ReadsElement fun ending events => (read ending events).map fun p => (f p.1, p.2) where
  inside := by
    intro inner hinner
    obtain ⟨result, hresult⟩ := h.inside inner hinner
    refine ⟨result.map f, fun ending rest => ?_⟩
    rw [hresult]
    cases result <;> rfl
  ends := by
    intro ending events b rest hmapped
    obtain ⟨⟨a, rest'⟩, hread, heq⟩ := map_eq_ok_iff.1 hmapped
    obtain rfl : rest' = rest := congrArg Prod.snd heq
    exact h.ends ending events a rest' hread

/-- Something can be asked for before the element is read. -/
theorem bind {α β : Type} {read : α → Ending → List Event → Except ReadError (β × List Event)}
    (x : Except ReadError α) (h : ∀ a, ReadsElement (read a)) :
    ReadsElement fun ending events => x >>= fun a => read a ending events where
  inside := by
    intro inner hinner
    cases x with
    | error e => exact ⟨.error e, fun ending rest => rfl⟩
    | ok a => exact (h a).inside inner hinner
  ends := by
    intro ending events b rest hbound
    obtain ⟨a, -, hread⟩ := bind_eq_ok_iff.1 hbound
    exact (h a).ends ending events b rest hread

end ReadsElement

/-- Takes what is given by the tag of an element, and passes over the element. -/
def takeByTag {α : Type} (given : Except ReadError α) (ending : Ending) (events : List Event) :
    Except ReadError (α × List Event) :=
  given >>= fun a => (passOver ending events).map fun rest => (a, rest)

theorem readsElement_takeByTag {α : Type} (given : Except ReadError α) :
    ReadsElement (takeByTag given) :=
  .bind given ReadsElement.passOver

/-! ## Loops over what is inside an element -/

/-- A loop that reads what is inside an element: an element without content by its tag, and
any other by a reader of elements, up to an end tag. -/
structure ReadsInside {σ : Type}
    (read : σ → Ending → List Event → Except ReadError (σ × List Event))
    (readTag : σ → Tag → Except ReadError σ)
    (readWhole : σ → Tag → Ending → List Event → Except ReadError (σ × List Event)) :
    Prop where
  /-- It fails where the events end. -/
  nil : ∀ s ending, ∃ e, read s ending [] = .error e
  /-- It stops at an end tag. -/
  closed : ∀ s ending events, read s ending (.closed :: events) = .ok (s, events)
  /-- It goes over what is no element. -/
  aside : ∀ s ending events, read s ending (.aside :: events) = read s ending events
  /-- It reads the tag of an element without content. -/
  childless : ∀ s tag ending events, read s ending (.childless tag :: events) =
    readTag s tag >>= fun s' => read s' ending events
  /-- It has any other element read, and goes on with what is left. -/
  opened : ∀ s tag ending events, read s ending (.opened tag :: events) =
    readWhole s tag ending events >>= fun p => read p.1 ending p.2

namespace ReadsInside

variable {σ : Type} {read : σ → Ending → List Event → Except ReadError (σ × List Event)}
  {readTag : σ → Tag → Except ReadError σ}
  {readWhole : σ → Tag → Ending → List Event → Except ReadError (σ × List Event)}

theorem exists_result (h : ReadsInside read readTag readWhole)
    (hwhole : ∀ s tag, ReadsElement (readWhole s tag)) {inner : List Event}
    (hinner : Nested inner) (s : σ) :
    ∃ result : Except ReadError σ, ∀ ending rest,
      read s ending (inner ++ .closed :: rest) = result.map fun s' => (s', rest) := by
  induction hinner generalizing s with
  | nil => exact ⟨.ok s, fun ending rest => h.closed s ending rest⟩
  | aside _ ih =>
    obtain ⟨result, hresult⟩ := ih s
    exact ⟨result, fun ending rest => (h.aside s ending _).trans (hresult ending rest)⟩
  | @childless tag events _ ih =>
    cases htag : readTag s tag with
    | error e =>
      refine ⟨.error e, fun ending rest => ?_⟩
      rw [List.cons_append, h.childless, htag]
      rfl
    | ok s' =>
      obtain ⟨result, hresult⟩ := ih s'
      refine ⟨result, fun ending rest => ?_⟩
      rw [List.cons_append, h.childless, htag]
      exact hresult ending rest
  | @element tag inner events hinner _ _ ih =>
    obtain ⟨whole, hread⟩ := (hwhole s tag).inside inner hinner
    cases whole with
    | error e =>
      refine ⟨.error e, fun ending rest => ?_⟩
      rw [List.cons_append, List.append_assoc, List.cons_append, h.opened, hread]
      rfl
    | ok s' =>
      obtain ⟨result, hresult⟩ := ih s'
      refine ⟨result, fun ending rest => ?_⟩
      rw [List.cons_append, List.append_assoc, List.cons_append, h.opened, hread]
      exact hresult ending rest

/-- The elements inside are whole, as each of them is read to its end and the loop goes on
behind it. -/
theorem exists_nested (h : ReadsInside read readTag readWhole)
    (hwhole : ∀ s tag, ReadsElement (readWhole s tag)) {ending : Ending} {events : List Event}
    {s s' : σ} {rest : List Event} (hread : read s ending events = .ok (s', rest)) :
    ∃ inner, Nested inner ∧ events = inner ++ .closed :: rest := by
  match events with
  | [] =>
    obtain ⟨e, he⟩ := h.nil s ending
    rw [he] at hread
    cases hread
  | .closed :: events =>
    rw [h.closed] at hread
    cases hread
    exact ⟨[], .nil, rfl⟩
  | .aside :: events =>
    rw [h.aside] at hread
    obtain ⟨inner, hinner, rfl⟩ := exists_nested h hwhole hread
    exact ⟨_, .aside hinner, rfl⟩
  | .childless tag :: events =>
    rw [h.childless] at hread
    obtain ⟨next, -, hbehind⟩ := bind_eq_ok_iff.1 hread
    obtain ⟨inner, hinner, rfl⟩ := exists_nested h hwhole hbehind
    exact ⟨_, .childless hinner, rfl⟩
  | .opened tag :: events =>
    rw [h.opened] at hread
    obtain ⟨⟨next, behind⟩, helement, hbehind⟩ := bind_eq_ok_iff.1 hread
    obtain ⟨inner, hinner, hevents⟩ := (hwhole s tag).ends ending events next behind helement
    have hshorter := congrArg List.length hevents
    obtain ⟨others, hothers, rfl⟩ := exists_nested h hwhole hbehind
    refine ⟨.opened tag :: (inner ++ .closed :: others), .element hinner hothers, ?_⟩
    rw [hevents, List.cons_append, List.append_assoc, List.cons_append]
termination_by events.length
decreasing_by all_goals grind

/-- A loop reads an element if the readers that it calls do. -/
theorem readsElement (h : ReadsInside read readTag readWhole)
    (hwhole : ∀ s tag, ReadsElement (readWhole s tag)) (s : σ) : ReadsElement (read s) where
  inside _ hinner := h.exists_result hwhole hinner s
  ends _ _ _ _ hread := h.exists_nested hwhole hread

end ReadsInside

/-! ## Structs -/

theorem readsInside_readFields :
    ReadsInside (fun s ending => readFields ending s) addFieldOfTag
      fun s tag => takeByTag (addFieldOfTag s tag) where
  nil s ending := ⟨_, by rw [readFields]⟩
  closed s ending events := by rw [readFields]
  aside s ending events := by rw [readFields]
  childless s tag ending events := by
    rw [readFields]
    cases addFieldOfTag s tag <;> rfl
  opened s tag ending events := by
    rw [readFields_opened, takeByTag]
    cases addFieldOfTag s tag with
    | error e => rfl
    | ok s' => cases passOver ending events <;> rfl

theorem readsElement_readStruct (tag : Tag) :
    ReadsElement fun ending events => readStruct ending tag events := by
  have hread : (fun ending events => readStruct ending tag events) =
      fun ending events => structOfTag tag >>= fun s => readFields ending s events := by
    funext ending events
    rw [readStruct]
    cases structOfTag tag <;> rfl
  rw [hread]
  exact .bind (structOfTag tag) (readsInside_readFields.readsElement fun s tag =>
    readsElement_takeByTag (addFieldOfTag s tag))

/-! ## Namespaces -/

/-- Reads the type that an element declares: a struct with its fields, and any other by its
tag alone. -/
def readType (space : NamespaceDecl) (tag : Tag) (ending : Ending) (events : List Event) :
    Except ReadError (NamespaceDecl × List Event) :=
  if tag.name = "Struct" then
    (readStruct ending tag events).map fun p => (space.addStruct p.1, p.2)
  else takeByTag (addNamedType space tag) ending events

theorem readsElement_readType (space : NamespaceDecl) (tag : Tag) :
    ReadsElement (readType space tag) := by
  by_cases hstruct : tag.name = "Struct"
  · have hread : readType space tag = fun ending events =>
        (readStruct ending tag events).map fun p => (space.addStruct p.1, p.2) := by
      funext ending events
      exact if_pos hstruct
    rw [hread]
    exact (readsElement_readStruct tag).map space.addStruct
  · have hread : readType space tag = takeByTag (addNamedType space tag) := by
      funext ending events
      exact if_neg hstruct
    rw [hread]
    exact readsElement_takeByTag (addNamedType space tag)

theorem readsInside_readTypes :
    ReadsInside (fun space ending => readTypes ending space) addChildlessType readType where
  nil space ending := ⟨_, by rw [readTypes]⟩
  closed space ending events := by rw [readTypes]
  aside space ending events := by rw [readTypes]
  childless space tag ending events := by
    rw [readTypes]
    cases addChildlessType space tag <;> rfl
  opened space tag ending events := by
    rw [readTypes_opened, readType]
    split
    · cases readStruct ending tag events <;> rfl
    · rw [takeByTag]
      cases addNamedType space tag with
      | error e => rfl
      | ok space' => cases passOver ending events <;> rfl

theorem readsElement_readNamespace (tag : Tag) :
    ReadsElement fun ending events => readNamespace ending tag events := by
  have hread : (fun ending events => readNamespace ending tag events) =
      fun ending events => namespaceOfTag tag >>= fun space => readTypes ending space events := by
    funext ending events
    rw [readNamespace]
    cases namespaceOfTag tag <;> rfl
  rw [hread]
  exact .bind (namespaceOfTag tag) (readsInside_readTypes.readsElement readsElement_readType)

/-! ## Whole elements -/

/-- Passing over an element leaves what stands behind the shortest beginning of the events in
which the end tags outnumber the start tags by one, and that is what stands behind the whole
elements inside and the end tag behind them.  It fails if there is no such beginning, with
the fault at which the events end, or as the document is cut off.  Structs and namespaces are
read of the whole elements inside and leave what stands behind the end tag. -/
theorem passOver_verdict (ending : Ending) (events : List Event) :
    (∀ rest, passOver ending events = .ok rest ↔
      ∃ front, events = front ++ rest ∧ Shortest 1 events front) ∧
    (∀ rest, passOver ending events = .ok rest ↔
      ∃ inner, Nested inner ∧ events = inner ++ .closed :: rest) ∧
    (∀ e, passOver ending events = .error e ↔
      (∀ front, front <+: events → ¬ Outnumber 1 front) ∧
        e = match ending with
          | .broken fault => .markup fault
          | .complete => .invalidStructure "unexpected end of document") ∧
    (∀ tag, ReadsElement fun ending events => readStruct ending tag events) ∧
    ∀ tag, ReadsElement fun ending events => readNamespace ending tag events := by
  refine ⟨fun rest => ?_, fun rest => ?_, fun e => ?_, readsElement_readStruct,
    readsElement_readNamespace⟩
  · rw [passOver_eq_ok_iff, afterElement?_eq_some_iff]
  · rw [passOver_eq_ok_iff, afterElement?_eq_some_iff_nested]
  · rw [passOver_eq_error_iff, afterElement?_eq_none_iff]
    cases ending <;> rfl

/-- What may stand inside a namespace: a struct, with something inside its field. -/
def structInside : List Event :=
  [.opened ⟨"Struct", [⟨"Name", "POINT"⟩]⟩,
    .opened ⟨"Field", [⟨"Name", "x"⟩, ⟨"Type", "FLOAT"⟩]⟩, .aside, .closed, .closed]

/-- The struct is passed over and read, whatever stands behind the namespace. -/
theorem passOver_verdict_struct :
    Nested structInside ∧ ∀ ending rest,
      passOver ending (structInside ++ .closed :: rest) = .ok rest ∧
      readNamespace ending ⟨"Namespace", [⟨"Name", "Space"⟩]⟩ (structInside ++ .closed :: rest) =
        .ok (⟨"Space", "Space", [⟨"POINT", none, some [⟨"x", "FLOAT"⟩]⟩], [], []⟩, rest) := by
  have hnested : Nested structInside := .element (.element (.aside .nil) .nil) .nil
  obtain ⟨-, -, -, -, hnamespace⟩ := passOver_verdict .complete structInside
  obtain ⟨result, hresult⟩ := (hnamespace ⟨"Namespace", [⟨"Name", "Space"⟩]⟩).inside _ hnested
  have hread : readNamespace .complete ⟨"Namespace", [⟨"Name", "Space"⟩]⟩
      (structInside ++ [.closed]) =
        .ok (⟨"Space", "Space", [⟨"POINT", none, some [⟨"x", "FLOAT"⟩]⟩], [], []⟩, []) := by
    apply eq_ok_of_toOption
    decide +kernel
  obtain ⟨space, rfl, hspace⟩ := map_eq_ok_iff.1 ((hresult .complete []).symm.trans hread)
  obtain rfl := congrArg Prod.fst hspace
  refine ⟨hnested, fun ending rest => ⟨?_, hresult ending rest⟩⟩
  exact ((passOver_verdict ending _).2.1 rest).2 ⟨structInside, hnested, rfl⟩

end TypeProjection
