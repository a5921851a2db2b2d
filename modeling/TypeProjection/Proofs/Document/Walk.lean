/-
  Proofs/Document/Walk.lean --- how a reader walks over a document.

  Schemas and override documents are read in one way: a root element starts the result
  anew, elements that mean nothing are entered in front of the first root and passed
  over behind it, and every other element adds what it says.  A walk says no more than
  that, so that what holds of all walks holds of both readers: where the elements of the
  document go (`Walk.accounts`) and which ones are closed (`Walk.closes`).
-/
import TypeProjection.Proofs.Document.Landmarks

set_option autoImplicit false

namespace TypeProjection

open Markup (EndsBefore Event Tag unclosed unclosed_opened)

variable {σ : Type}

/-- What holds some elements becomes, with more elements, what holds these too. -/
def Gains (Holds : σ → List OverrideSite → Prop) (s : σ) (sites : List OverrideSite)
    (s' : σ) : Prop :=
  ∀ kept, Holds s kept → Holds s' (kept ++ sites)

namespace Gains

variable {Holds : σ → List OverrideSite → Prop} {s s' s'' : σ} {sites others : List OverrideSite}

theorem refl (s : σ) : Gains Holds s [] s :=
  fun kept h => by rwa [List.append_nil]

theorem trans (h : Gains Holds s sites s') (h' : Gains Holds s' others s'') :
    Gains Holds s (sites ++ others) s'' := fun kept hkept => by
  rw [← List.append_assoc]
  exact h' _ (h kept hkept)

end Gains

/-- The walk over the events of a document that is accepted.  The state is what was
read since the last root element, if there was one; `Holds` relates it to the elements
that it was read from. -/
inductive Walk (root : String) (Holds : σ → List OverrideSite → Prop) :
    Option σ → List Event → σ → Prop where
  /-- the document ends behind a root element -/
  | done {s : σ} : Walk root Holds (some s) [] s
  /-- an end tag, or something that is no element -/
  | beside {state : Option σ} {event : Event} {events : List Event} {final : σ}
    (hevent : event = .closed ∨ event = .aside) (h : Walk root Holds state events final) :
    Walk root Holds state (event :: events) final
  /-- a root element, with or without content -/
  | root {state : Option σ} {s : σ} {event : Event} {tag : Tag} {events : List Event} {final : σ}
    (hevent : event = .opened tag ∨ event = .childless tag) (hname : tag.name = root)
    (hholds : Holds s []) (h : Walk root Holds (some s) events final) :
    Walk root Holds state (event :: events) final
  /-- an element in front of all roots is entered -/
  | entered {tag : Tag} {events : List Event} {final : σ}
    (hname : tag.name ∉ [root, "Primitive", "Struct", "Namespace"])
    (h : Walk root Holds none events final) : Walk root Holds none (.opened tag :: events) final
  /-- an element without content in front of all roots -/
  | outside {tag : Tag} {events : List Event} {final : σ} (hname : tag.name ≠ root)
    (hsites : Place.root.sites tag = []) (h : Walk root Holds none events final) :
    Walk root Holds none (.childless tag :: events) final
  /-- an element without content behind a root -/
  | single {s s' : σ} {tag : Tag} {events : List Event} {final : σ} (hname : tag.name ≠ root)
    (hgains : Gains Holds s (Place.root.sites tag) s')
    (h : Walk root Holds (some s') events final) :
    Walk root Holds (some s) (.childless tag :: events) final
  /-- an element with content behind a root -/
  | pair {s s' : σ} {tag : Tag} {events rest : List Event} {sites : List OverrideSite} {final : σ}
    (hname : tag.name ≠ root) (hinside : Encloses (Place.root.inside tag) events sites rest)
    (hgains : Gains Holds s (Place.root.sites tag ++ sites) s')
    (h : Walk root Holds (some s') rest final) :
    Walk root Holds (some s) (.opened tag :: events) final

variable {root : String} {Holds : σ → List OverrideSite → Prop}

/-- An element that is passed over behind a root adds what its own tag says. -/
theorem Walk.passed {s s' final : σ} {tag : Tag} {events rest : List Event}
    (hname : tag.name ≠ root) (hspace : tag.name ≠ "Namespace") (hends : EndsBefore events rest)
    (hgains : Gains Holds s (Place.root.sites tag) s')
    (h : Walk root Holds (some s') rest final) :
    Walk root Holds (some s) (.opened tag :: events) final := by
  have hinside : Encloses (Place.root.inside tag) events [] rest := by
    rw [Place.inside_root_of_ne hspace]
    exact .of_endsBefore hends
  exact .pair hname hinside (hgains.trans (.refl s')) h

/-! ## Parts -/

/-- The last of the parts is held by the result; the others are lost, though each of
them was once held. -/
def Accounts (Holds : σ → List OverrideSite → Prop) (parts : List (List OverrideSite))
    (final : σ) : Prop :=
  ∃ lost kept, parts = lost ++ [kept] ∧ Holds final kept ∧ ∀ part ∈ lost, ∃ s, Holds s part

theorem Accounts.cons {s final : σ} {part : List OverrideSite}
    {parts : List (List OverrideSite)} (h : Accounts Holds parts final) (hpart : Holds s part) :
    Accounts Holds (part :: parts) final := by
  obtain ⟨lost, kept, rfl, hkept, hlost⟩ := h
  exact ⟨part :: lost, kept, rfl, hkept, List.forall_mem_cons.2 ⟨⟨s, hpart⟩, hlost⟩⟩

theorem landmarks_root {event : Event} {tag : Tag} (rooted : Bool) (events : List Event)
    (hevent : event = .opened tag ∨ event = .childless tag) (hname : tag.name = root) :
    landmarks root rooted [] (event :: events) = .root :: landmarks root true [] events := by
  rcases hevent with rfl | rfl <;> rw [landmarks, if_pos hname]

/-- What is read behind a root goes on from what was read since that root. -/
theorem Walk.accounts_of_rooted {s final : σ} {events : List Event} {kept : List OverrideSite}
    (h : Walk root Holds (some s) events final) (hkept : Holds s kept) :
    Accounts Holds ((partsOf (landmarks root true [] events)).modifyHead (kept ++ ·)) final := by
  generalize hstate : some s = state at h
  induction h generalizing s kept with
  | done =>
    obtain rfl := Option.some.inj hstate
    refine ⟨[], kept, ?_, hkept, by simp⟩
    simp [landmarks, partsOf]
  | beside hevent _ ih =>
    rcases hevent with rfl | rfl
    · exact ih hkept hstate
    · exact ih hkept hstate
  | root hevent hname hholds _ ih =>
    rw [landmarks_root true _ hevent hname, partsOf, List.modifyHead_cons, List.append_nil]
    have hbehind := ih hholds rfl
    rw [modifyHead_nil_append] at hbehind
    exact hbehind.cons hkept
  | entered | outside => cases hstate
  | single hname hgains _ ih =>
    obtain rfl := Option.some.inj hstate
    rw [landmarks, if_neg hname, partsOf_append, List.modifyHead_modifyHead]
    simpa [Function.comp_def] using ih (hgains kept hkept) rfl
  | pair hname hinside hgains _ ih =>
    obtain rfl := Option.some.inj hstate
    rw [landmarks, if_neg hname, if_neg (by simp), landmarks_of_encloses hinside,
      ← List.append_assoc, ← List.map_append, partsOf_append, List.modifyHead_modifyHead]
    simpa [Function.comp_def] using ih (hgains kept hkept) rfl

/-- Nothing that matters stands in front of the first root of a document that is
accepted, and of the parts behind its roots the result holds the last. -/
theorem Walk.accounts {final : σ} {events : List Event} (h : Walk root Holds none events final) :
    ∃ parts, documentParts root events = [] :: parts ∧ Accounts Holds parts final := by
  unfold documentParts
  generalize hstate : none = state at h
  induction h with
  | done => cases hstate
  | beside hevent _ ih =>
    rcases hevent with rfl | rfl
    · exact ih hstate
    · exact ih hstate
  | root hevent hname hholds h _ =>
    rw [landmarks_root false _ hevent hname, partsOf]
    have hbehind := h.accounts_of_rooted hholds
    rw [modifyHead_nil_append] at hbehind
    exact ⟨_, rfl, hbehind⟩
  | entered hname _ ih =>
    rw [List.mem_cons, not_or] at hname
    rw [landmarks, if_neg hname.1, if_pos ⟨rfl, hname.2⟩]
    exact ih rfl
  | outside hname hsites _ ih =>
    rw [landmarks, if_neg hname, hsites]
    exact ih rfl
  | single | pair => cases hstate

/-! ## Elements that are closed -/

/-- Behind a root, every element that is no root is closed. -/
theorem Walk.closes_of_rooted {s final : σ} {events : List Event}
    (h : Walk root Holds (some s) events final) : ∀ tag ∈ unclosed events, tag.name = root := by
  generalize hstate : some s = state at h
  induction h generalizing s with
  | done => simp [unclosed]
  | beside hevent _ ih =>
    rcases hevent with rfl | rfl
    · exact ih hstate
    · exact ih hstate
  | root hevent hname _ _ ih =>
    rcases hevent with rfl | rfl
    · rw [unclosed]
      split
      · exact List.forall_mem_cons.2 ⟨hname, ih rfl⟩
      · exact ih rfl
    · exact ih rfl
  | entered | outside => cases hstate
  | single _ _ _ ih => exact ih rfl
  | pair _ hinside _ _ ih =>
    rw [unclosed_opened hinside.endsBefore]
    exact ih rfl

/-- The events of a document with a root element: what is opened in front of the first
one is nothing that matters, and from it on every element that is no root is closed. -/
def ClosesButRoots (root : String) (events : List Event) : Prop :=
  ∃ before first behind tag, events = before ++ first :: behind ∧
    (first = .opened tag ∨ first = .childless tag) ∧ tag.name = root ∧
    (∀ t, .opened t ∈ before → t.name ∉ [root, "Primitive", "Struct", "Namespace"]) ∧
    ∀ t ∈ unclosed (first :: behind), t.name = root

theorem ClosesButRoots.cons {event : Event} {events : List Event}
    (h : ClosesButRoots root events)
    (hevent : ∀ t, event = .opened t → t.name ∉ [root, "Primitive", "Struct", "Namespace"]) :
    ClosesButRoots root (event :: events) := by
  obtain ⟨before, first, behind, tag, rfl, hfirst, hname, hbefore, hclosed⟩ := h
  refine ⟨event :: before, first, behind, tag, rfl, hfirst, hname, fun t ht => ?_, hclosed⟩
  rcases List.mem_cons.1 ht with heq | ht
  · exact hevent t heq.symm
  · exact hbefore t ht

/-- In a document that is accepted, elements that are not closed are roots, or stand
around the first one. -/
theorem Walk.closes {final : σ} {events : List Event} (h : Walk root Holds none events final) :
    ClosesButRoots root events := by
  generalize hstate : none = state at h
  induction h with
  | done => cases hstate
  | beside hevent _ ih =>
    refine (ih hstate).cons fun t ht => ?_
    rcases hevent with rfl | rfl <;> cases ht
  | @root _ s event tag events final hevent hname hholds h _ =>
    have hrooted : Walk root Holds (some s) (event :: events) final :=
      .root hevent hname hholds h
    exact ⟨[], event, events, tag, rfl, hevent, hname, by simp, hrooted.closes_of_rooted⟩
  | entered hname _ ih =>
    refine (ih rfl).cons fun t ht => ?_
    cases ht
    exact hname
  | outside _ _ _ ih => exact (ih rfl).cons fun t ht => by cases ht
  | single | pair => cases hstate

end TypeProjection
