/-
  Proofs/Document/Respelled.lean --- elements without content in override documents.

  An element without content can be written as one tag or as two.  Inside other elements
  this makes no difference to the overrides that are read.  Directly in the document it makes
  one for namespaces only: written as one tag, a namespace is not looked at, so that it may
  lack its name or stand in front of the root (`respelled_verdict`).
-/
import TypeProjection.Override.Reader
import TypeProjection.Proofs.Document.WholeElements
import TypeProjection.Proofs.Markup.Places

set_option autoImplicit false

namespace TypeProjection

open Markup

/-! ## Inside elements -/

/-- Inside an element that is passed over it makes no difference. -/
theorem afterElement?_respelled {depth : Nat} {front : List Event}
    (h : afterElement? depth front = none) (tag : Tag) (back : List Event) :
    afterElement? depth (front ++ .opened tag :: .closed :: back) =
      afterElement? depth (front ++ .childless tag :: back) := by
  fun_induction afterElement? depth front with
  | case1 depth =>
    simp only [List.nil_append, afterElement?]
  | case3 events => cases h
  | case2 depth tag' events ih | case4 depth events ih =>
    rw [List.cons_append, List.cons_append, afterElement?, afterElement?]
    exact ih h
  | case5 depth tag' events ih =>
    rw [List.cons_append, List.cons_append, afterElement?, afterElement?]
    exact ih h
  | case6 depth events ih =>
    rw [List.cons_append, List.cons_append, afterElement?, afterElement?]
    exact ih h

theorem passOver_append {ending : Ending} {front rest : List Event}
    (h : afterElement? 0 front = some rest) (tail : List Event) :
    passOver ending (front ++ tail) = .ok (rest ++ tail) := by
  obtain ⟨inner, hinner, rfl⟩ := afterElement?_eq_some_iff_nested.1 h
  rw [List.append_assoc, List.cons_append, passOver_of_nested hinner]

theorem passOver_respelled {ending : Ending} {front : List Event}
    (h : afterElement? 0 front = none) (tag : Tag) (back : List Event) :
    passOver ending (front ++ .opened tag :: .closed :: back) =
      passOver ending (front ++ .childless tag :: back) := by
  rw [passOver, passOver, afterElement?_respelled h]

theorem passOver_closed (ending : Ending) (back : List Event) :
    passOver ending (.closed :: back) = .ok back :=
  rfl

/-! ## Namespaces -/

section Namespaces

variable {ending : Ending} {space : String}

theorem readsInside_readNamespaceOverrides :
    ReadsInside (fun overrides ending => readNamespaceOverrides ending space overrides)
      (addOverrideInNamespace space)
      fun overrides tag => takeByTag (addOverrideInNamespace space overrides tag) where
  nil overrides ending := ⟨_, by rw [readNamespaceOverrides]⟩
  closed overrides ending events := by rw [readNamespaceOverrides]
  aside overrides ending events := by rw [readNamespaceOverrides]
  childless overrides tag ending events := by
    rw [readNamespaceOverrides]
    cases addOverrideInNamespace space overrides tag <;> rfl
  opened overrides tag ending events := by
    rw [readNamespaceOverrides_opened, takeByTag]
    cases addOverrideInNamespace space overrides tag with
    | error e => rfl
    | ok overrides' => cases passOver ending events <;> rfl

/-- A namespace that ends in front is read as it is whatever follows. -/
theorem exists_readNamespaceOverrides_append (overrides : Overrides) {front rest : List Event}
    (h : afterElement? 0 front = some rest) :
    ∃ result : Except ReadError Overrides, ∀ tail,
      readNamespaceOverrides ending space overrides (front ++ tail) =
        result.map fun overrides' => (overrides', rest ++ tail) := by
  obtain ⟨inner, hinner, rfl⟩ := afterElement?_eq_some_iff_nested.1 h
  obtain ⟨result, hresult⟩ := readsInside_readNamespaceOverrides.exists_result
    (fun _ _ => readsElement_takeByTag _) hinner overrides
  refine ⟨result, fun tail => ?_⟩
  rw [List.append_assoc, List.cons_append]
  exact hresult ending (rest ++ tail)

/-- In a namespace it makes no difference. -/
theorem readNamespaceOverrides_respelled (overrides : Overrides) {front : List Event}
    (h : afterElement? 0 front = none) (tag : Tag) (back : List Event) :
    readNamespaceOverrides ending space overrides (front ++ .opened tag :: .closed :: back) =
      readNamespaceOverrides ending space overrides (front ++ .childless tag :: back) := by
  match front with
  | [] =>
    rw [List.nil_append, List.nil_append, readNamespaceOverrides_opened, readNamespaceOverrides,
      passOver_closed]
  | .closed :: front => cases h
  | .aside :: front =>
    rw [List.cons_append, List.cons_append, readNamespaceOverrides, readNamespaceOverrides]
    have hinner : afterElement? 0 front = none := h
    exact readNamespaceOverrides_respelled overrides hinner tag back
  | .childless other :: front =>
    rw [List.cons_append, List.cons_append, readNamespaceOverrides, readNamespaceOverrides]
    cases addOverrideInNamespace space overrides other with
    | error e => rfl
    | ok overrides' =>
      have hinner : afterElement? 0 front = none := h
      exact readNamespaceOverrides_respelled overrides' hinner tag back
  | .opened other :: front =>
    rw [List.cons_append, List.cons_append, readNamespaceOverrides_opened,
      readNamespaceOverrides_opened]
    cases addOverrideInNamespace space overrides other with
    | error e => rfl
    | ok overrides' =>
      cases hinner : afterElement? 0 front with
      | none => rw [passOver_respelled hinner]
      | some behind =>
        have hshorter := length_of_afterElement? hinner
        rw [afterElement?, afterElement?_add 0 0, hinner, Option.bind_some] at h
        rw [passOver_append hinner, passOver_append hinner]
        exact readNamespaceOverrides_respelled overrides' h tag back
termination_by front.length
decreasing_by all_goals grind

end Namespaces

/-! ## Where an element stands -/

/-- Where the reader of a document stands. -/
structure Standing where
  /-- A root element was met. -/
  rooted : Bool
  /-- How many elements are open that are not read as parts of the document. -/
  depth : Nat
  deriving DecidableEq

namespace Standing

/-- Where the reader stands at first. -/
def start : Standing :=
  ⟨false, 0⟩

/-- Where the reader stands behind one event.  In front of the root, elements are entered. -/
def step (standing : Standing) : Event → Standing
  | .opened tag =>
    if standing.depth ≠ 0 then { standing with depth := standing.depth + 1 }
    else if tag.name = "Overrides" then ⟨true, 0⟩
    else if standing.rooted then ⟨true, 1⟩
    else standing
  | .closed => { standing with depth := standing.depth - 1 }
  | .childless tag =>
    if standing.depth = 0 ∧ tag.name = "Overrides" then ⟨true, 0⟩ else standing
  | .aside => standing

/-- Where the reader stands behind events. -/
def after (standing : Standing) (events : List Event) : Standing :=
  events.foldl step standing

theorem after_cons (standing : Standing) (event : Event) (events : List Event) :
    standing.after (event :: events) = (standing.step event).after events :=
  rfl

/-- Behind an element that ends, the reader stands where it stood. -/
theorem after_of_afterElement? {rooted : Bool} {depth : Nat} {events rest : List Event}
    (h : afterElement? depth events = some rest) :
    after ⟨rooted, depth + 1⟩ events = after ⟨rooted, 0⟩ rest := by
  fun_induction afterElement? depth events with
  | case1 => cases h
  | case3 events =>
    obtain rfl := Option.some.inj h
    rfl
  | case2 depth tag events ih | case4 depth events ih | case5 depth tag events ih
  | case6 depth events ih => exact ih h

/-- Unless an element ends, the reader stands in it. -/
theorem depth_after_ne {rooted : Bool} {depth : Nat} {events : List Event}
    (h : afterElement? depth events = none) : (after ⟨rooted, depth + 1⟩ events).depth ≠ 0 := by
  fun_induction afterElement? depth events with
  | case1 depth => exact Nat.succ_ne_zero depth
  | case3 => cases h
  | case2 depth tag events ih | case4 depth events ih | case5 depth tag events ih
  | case6 depth events ih => exact ih h

end Standing

/-! ## Documents -/

section Documents

variable {ending : Ending}

/-- What is read behind some events, depending on where the reader stands there. -/
structure Follows (ending : Ending) (state : Option Overrides) (front : List Event)
    (standing : Standing) : Prop where
  /-- Directly in the document the overrides read so far are all that matters, and there are
  some exactly behind a root. -/
  outside : standing.depth = 0 → ∃ result : Except ReadError (Option Overrides),
    (∀ state', result = .ok state' → state'.isSome = standing.rooted) ∧
    ∀ tail, readOverrideElements ending state (front ++ tail) =
      result >>= fun state' => readOverrideElements ending state' tail
  /-- Anywhere else it makes no difference how an element without content is written. -/
  inside : standing.depth ≠ 0 → ∀ tag back,
    readOverrideElements ending state (front ++ .opened tag :: .closed :: back) =
      readOverrideElements ending state (front ++ .childless tag :: back)

namespace Follows

variable {state state' : Option Overrides} {front front' : List Event} {standing : Standing}

/-- Nothing follows a refusal. -/
theorem of_error (e : ReadError)
    (h : ∀ tail, readOverrideElements ending state (front ++ tail) = .error e) :
    Follows ending state front standing where
  outside _ := by
    refine ⟨.error e, fun state' hstate => ?_, h⟩
    cases hstate
  inside _ tag back := (h _).trans (h _).symm

/-- Reading goes on from another state. -/
theorem of_eq (h : Follows ending state' front' standing)
    (heq : ∀ tail, readOverrideElements ending state (front ++ tail) =
      readOverrideElements ending state' (front' ++ tail)) :
    Follows ending state front standing where
  outside hdepth := by
    obtain ⟨result, hstate, hresult⟩ := h.outside hdepth
    exact ⟨result, hstate, fun tail => (heq tail).trans (hresult tail)⟩
  inside hdepth tag back := by
    rw [heq, heq]
    exact h.inside hdepth tag back

end Follows

theorem readOverrideElements_childless (state : Option Overrides) (tag : Tag)
    (back : List Event) :
    readOverrideElements ending state (.childless tag :: back) =
      addChildlessOverride state tag >>= fun state' => readOverrideElements ending state' back := by
  rw [readOverrideElements]
  cases addChildlessOverride state tag <;> rfl

theorem isSome_addOverrideInRoot {state state' : Option Overrides} {tag : Tag}
    (h : addOverrideInRoot state tag = .ok state') : state'.isSome = state.isSome := by
  have hrequire : ∀ {overrides}, requireOverrides state = .ok overrides → state.isSome = true := by
    intro overrides hstate
    cases state with
    | none => cases hstate
    | some _ => rfl
  unfold addOverrideInRoot at h
  split at h
  · obtain ⟨_, -, h⟩ := bind_eq_ok_iff.1 h
    obtain ⟨_, hstate, h⟩ := bind_eq_ok_iff.1 h
    obtain ⟨_, -, h⟩ := bind_eq_ok_iff.1 h
    obtain rfl := Except.ok.inj h
    exact (hrequire hstate).symm
  split at h
  · obtain ⟨_, -, h⟩ := bind_eq_ok_iff.1 h
    obtain ⟨_, hstate, h⟩ := bind_eq_ok_iff.1 h
    obtain ⟨_, -, h⟩ := bind_eq_ok_iff.1 h
    obtain rfl := Except.ok.inj h
    exact (hrequire hstate).symm
  · obtain rfl := Except.ok.inj h
    rfl

theorem isSome_addChildlessOverride {state state' : Option Overrides} {tag : Tag}
    (h : addChildlessOverride state tag = .ok state') :
    Standing.step ⟨state.isSome, 0⟩ (.childless tag) = ⟨state'.isSome, 0⟩ := by
  unfold addChildlessOverride at h
  split at h
  · rename_i hname
    obtain rfl := Except.ok.inj h
    exact if_pos ⟨rfl, hname⟩
  · rename_i hname
    rw [isSome_addOverrideInRoot h]
    exact if_neg fun hroot => hname hroot.2

/-- An element of the document is read up to its end tag, if that is there; otherwise the
reader stands in it. -/
theorem follows_opened {overrides : Overrides} {tag : Tag} {front : List Event}
    (read : List Event → Except ReadError (Overrides × List Event))
    (hname : tag.name ≠ "Overrides")
    (hread : ∀ events, readOverrideElements ending (some overrides) (.opened tag :: events) =
      read events >>= fun p => readOverrideElements ending (some p.1) p.2)
    (hends : ∀ rest, afterElement? 0 front = some rest →
      ∃ result : Except ReadError Overrides, ∀ tail,
        read (front ++ tail) = result.map fun overrides' => (overrides', rest ++ tail))
    (hopen : afterElement? 0 front = none → ∀ tag back,
      read (front ++ .opened tag :: .closed :: back) = read (front ++ .childless tag :: back))
    (hfollows : ∀ overrides' rest, afterElement? 0 front = some rest →
      Follows ending (some overrides') rest (Standing.after ⟨true, 0⟩ rest)) :
    Follows ending (some overrides) (.opened tag :: front)
      (Standing.after ⟨true, 0⟩ (.opened tag :: front)) := by
  have hstep : Standing.step ⟨true, 0⟩ (.opened tag) = ⟨true, 1⟩ := by
    simp [Standing.step, hname]
  rw [Standing.after_cons, hstep]
  cases hinner : afterElement? 0 front with
  | none =>
    refine ⟨fun h => absurd h (Standing.depth_after_ne hinner), fun _ tag' back => ?_⟩
    rw [List.cons_append, List.cons_append, hread, hread, hopen hinner]
  | some rest =>
    rw [Standing.after_of_afterElement? hinner]
    obtain ⟨result, hresult⟩ := hends rest hinner
    cases result with
    | error e =>
      refine .of_error e fun tail => ?_
      rw [List.cons_append, hread, hresult]
      rfl
    | ok overrides' =>
      refine (hfollows overrides' rest hinner).of_eq fun tail => ?_
      rw [List.cons_append, hread, hresult]
      rfl

section Opened

variable {state : Option Overrides} {tag : Tag} {front : List Event}
  (hfollows : ∀ overrides rest, afterElement? 0 front = some rest →
    Follows ending (some overrides) rest (Standing.after ⟨true, 0⟩ rest))

/-- A root element starts the overrides anew. -/
theorem follows_root (hroot : tag.name = "Overrides")
    (h : Follows ending (some .empty) front (Standing.after ⟨true, 0⟩ front)) :
    Follows ending state (.opened tag :: front)
      (Standing.after ⟨state.isSome, 0⟩ (.opened tag :: front)) := by
  have hstep : Standing.step ⟨state.isSome, 0⟩ (.opened tag) = ⟨true, 0⟩ := by
    simp [Standing.step, hroot]
  rw [Standing.after_cons, hstep]
  refine h.of_eq fun tail => ?_
  rw [List.cons_append, readOverrideElements_opened, if_pos hroot]

include hfollows

/-- A namespace is looked at, and then read up to its end tag. -/
theorem follows_namespace (hspace : tag.name = "Namespace") :
    Follows ending state (.opened tag :: front)
      (Standing.after ⟨state.isSome, 0⟩ (.opened tag :: front)) := by
  have hroot : tag.name ≠ "Overrides" := by simp [hspace]
  cases state with
  | none =>
    refine .of_error (.invalidStructure (outsideRoot "override" "Overrides")) fun tail => ?_
    rw [List.cons_append, readOverrideElements_opened, if_neg hroot, if_pos hspace]
    rfl
  | some overrides =>
    cases hvalue : requireAttribute tag "Namespace" "Name" with
    | error e =>
      refine .of_error e fun tail => ?_
      rw [List.cons_append, readOverrideElements_opened, if_neg hroot, if_pos hspace,
        readNamespaceInRoot, hvalue]
      rfl
    | ok space =>
      refine follows_opened (readNamespaceOverrides ending space overrides) hroot ?_ ?_ ?_ hfollows
      · intro events
        rw [readOverrideElements_opened, if_neg hroot, if_pos hspace, readNamespaceInRoot, hvalue]
        dsimp only [requireOverrides]
        cases readNamespaceOverrides ending space overrides events <;> rfl
      · exact fun rest hrest => exists_readNamespaceOverrides_append overrides hrest
      · exact fun hinner => readNamespaceOverrides_respelled overrides hinner

/-- Any other element may give an override, and is passed over behind a root. -/
theorem follows_override (hroot : tag.name ≠ "Overrides") (hspace : tag.name ≠ "Namespace")
    (hnone : Follows ending none front (Standing.after ⟨false, 0⟩ front)) :
    Follows ending state (.opened tag :: front)
      (Standing.after ⟨state.isSome, 0⟩ (.opened tag :: front)) := by
  cases hadd : addOverrideInRoot state tag with
  | error e =>
    refine .of_error e fun tail => ?_
    rw [List.cons_append, readOverrideElements_opened, if_neg hroot, if_neg hspace, hadd]
  | ok state' =>
    have hsome := isSome_addOverrideInRoot hadd
    cases state' with
    | none =>
      have hstep : Standing.step ⟨state.isSome, 0⟩ (.opened tag) = ⟨false, 0⟩ := by
        simp [Standing.step, hroot, ← hsome]
      rw [Standing.after_cons, hstep]
      refine hnone.of_eq fun tail => ?_
      rw [List.cons_append, readOverrideElements_opened, if_neg hroot, if_neg hspace, hadd]
    | some overrides' =>
      obtain ⟨overrides, rfl⟩ := Option.isSome_iff_exists.1 hsome.symm
      refine follows_opened (fun events => (passOver ending events).map (overrides', ·)) hroot
        ?_ ?_ ?_ hfollows
      · intro events
        rw [readOverrideElements_opened, if_neg hroot, if_neg hspace, hadd]
        dsimp only
        cases passOver ending events <;> rfl
      · intro rest hrest
        exact ⟨.ok overrides', fun tail => by rw [passOver_append hrest]; rfl⟩
      · intro hinner tag' back
        rw [passOver_respelled hinner]

end Opened

/-- What is read behind some events depends on where the reader stands. -/
theorem follows (state : Option Overrides) (front : List Event) :
    Follows ending state front (Standing.after ⟨state.isSome, 0⟩ front) := by
  match front with
  | [] =>
    refine ⟨fun _ => ⟨.ok state, ?_, fun _ => rfl⟩, fun h => absurd rfl h⟩
    rintro state' ⟨⟩
    rfl
  | .closed :: front | .aside :: front =>
    refine (follows state front).of_eq fun tail => ?_
    rw [List.cons_append, readOverrideElements]
  | .childless tag :: front =>
    cases hadd : addChildlessOverride state tag with
    | error e =>
      refine .of_error e fun tail => ?_
      rw [List.cons_append, readOverrideElements_childless, hadd]
      rfl
    | ok state' =>
      rw [Standing.after_cons, isSome_addChildlessOverride hadd]
      refine (follows state' front).of_eq fun tail => ?_
      rw [List.cons_append, readOverrideElements_childless, hadd]
      rfl
  | .opened tag :: front =>
    have hfollows : ∀ overrides rest, afterElement? 0 front = some rest →
        Follows ending (some overrides) rest (Standing.after ⟨true, 0⟩ rest) := by
      intro overrides rest hrest
      have hshorter := length_of_afterElement? hrest
      exact follows (some overrides) rest
    by_cases hroot : tag.name = "Overrides"
    · exact follows_root hroot (follows (some .empty) front)
    by_cases hspace : tag.name = "Namespace"
    · exact follows_namespace hfollows hspace
    · exact follows_override hfollows hroot hspace (follows none front)
termination_by front.length

/-- An element is a namespace that is not looked at as long as it is written as one tag: it
stands directly in the document, in front of the root or without a name. -/
def Standing.Overlooks (standing : Standing) (tag : Tag) : Prop :=
  standing.depth = 0 ∧ tag.name = "Namespace" ∧
    (standing.rooted = false ∨ tag.value? "Name" = none)

instance (standing : Standing) : DecidablePred standing.Overlooks := fun tag =>
  inferInstanceAs (Decidable (standing.depth = 0 ∧ tag.name = "Namespace" ∧
    (standing.rooted = false ∨ tag.value? "Name" = none)))

/-- Why such a namespace is refused if it is looked at. -/
def Standing.refusal (standing : Standing) : ReadError :=
  if standing.rooted then .missingAttribute "Namespace" "Name"
  else .invalidStructure (outsideRoot "override" "Overrides")

/-- A namespace without content is passed over if it is written as one tag. -/
theorem readOverrideElements_overlooked (state : Option Overrides) {tag : Tag}
    (hname : tag.name = "Namespace") (back : List Event) :
    readOverrideElements ending state (.childless tag :: back) =
      readOverrideElements ending state back := by
  have hadd : addChildlessOverride state tag = .ok state := by
    simp [addChildlessOverride, addOverrideInRoot, hname, pure, Except.pure]
  rw [readOverrideElements_childless, hadd]
  rfl

/-- Written as two tags, it has to stand behind a root and to have a name. -/
theorem readOverrideElements_namespace (state : Option Overrides) {tag : Tag}
    (hname : tag.name = "Namespace") (back : List Event) :
    readOverrideElements ending state (.opened tag :: .closed :: back) =
      if Standing.Overlooks ⟨state.isSome, 0⟩ tag then
        .error (Standing.refusal ⟨state.isSome, 0⟩)
      else readOverrideElements ending state back := by
  rw [readOverrideElements_opened, if_neg (by simp [hname]), if_pos hname, readNamespaceInRoot]
  cases state with
  | none =>
    rw [if_pos ⟨rfl, hname, .inl rfl⟩]
    rfl
  | some overrides =>
    cases hvalue : tag.value? "Name" with
    | none =>
      rw [if_pos ⟨rfl, hname, .inr hvalue⟩]
      simp only [requireOverrides, requireAttribute, hvalue]
      rfl
    | some space =>
      have hlooks : ¬ Standing.Overlooks ⟨true, 0⟩ tag := by
        rintro ⟨-, -, hroot | hnone⟩
        · cases hroot
        · cases hnone.symm.trans hvalue
      rw [Option.isSome_some, if_neg hlooks]
      simp only [requireOverrides, requireAttribute, hvalue, readNamespaceOverrides]

/-- Any other element is read alike, however it is written. -/
theorem readOverrideElements_pair (state : Option Overrides) {tag : Tag}
    (hname : tag.name ≠ "Namespace") (back : List Event) :
    readOverrideElements ending state (.opened tag :: .closed :: back) =
      readOverrideElements ending state (.childless tag :: back) := by
  rw [readOverrideElements_opened, readOverrideElements_childless, addChildlessOverride,
    if_neg hname]
  by_cases hroot : tag.name = "Overrides"
  · rw [if_pos hroot, if_pos hroot]
    show _ = readOverrideElements ending (some .empty) back
    rw [readOverrideElements]
  · rw [if_neg hroot, if_neg hroot]
    cases addOverrideInRoot state tag with
    | error e => rfl
    | ok state' =>
      show _ = readOverrideElements ending state' back
      cases state' with
      | none =>
        dsimp only
        rw [readOverrideElements]
      | some overrides' =>
        dsimp only
        rw [passOver_closed]

/-- It makes no difference how an element without content is written unless it is a namespace
that is overlooked. -/
theorem readOverrideElements_respelled {front : List Event} {tag : Tag} (back : List Event)
    (h : ¬ (Standing.start.after front).Overlooks tag) :
    readOverrideElements ending none (front ++ .opened tag :: .closed :: back) =
      readOverrideElements ending none (front ++ .childless tag :: back) := by
  have hfollows : Follows ending none front (Standing.start.after front) := follows none front
  by_cases hdepth : (Standing.start.after front).depth = 0
  · obtain ⟨result, hstate, hresult⟩ := hfollows.outside hdepth
    rw [hresult, hresult]
    cases result with
    | error e => rfl
    | ok state =>
      show readOverrideElements ending state _ = readOverrideElements ending state _
      by_cases hname : tag.name = "Namespace"
      · have hlooks : ¬ Standing.Overlooks ⟨state.isSome, 0⟩ tag := by
          rw [hstate state rfl, ← hdepth]
          exact h
        rw [readOverrideElements_overlooked state hname, readOverrideElements_namespace state hname,
          if_neg hlooks]
      · exact readOverrideElements_pair state hname back
  · exact hfollows.inside hdepth tag back

/-- A namespace that is overlooked might as well not be there if it is written as one tag.
Written as two, it is refused, unless something in front of it is. -/
theorem readOverrideElements_of_overlooks {front : List Event} {tag : Tag} (back : List Event)
    (h : (Standing.start.after front).Overlooks tag) :
    readOverrideElements ending none (front ++ .childless tag :: back) =
        readOverrideElements ending none (front ++ back) ∧
      (readOverrideElements ending none (front ++ .opened tag :: .closed :: back) =
          .error (Standing.start.after front).refusal ∨
        ∃ e,
          readOverrideElements ending none (front ++ .childless tag :: back) = .error e ∧
          readOverrideElements ending none (front ++ .opened tag :: .closed :: back) =
            .error e) := by
  have hfollows : Follows ending none front (Standing.start.after front) := follows none front
  obtain ⟨result, hstate, hresult⟩ := hfollows.outside h.1
  rw [hresult, hresult, hresult]
  cases result with
  | error e => exact ⟨rfl, .inr ⟨e, rfl, rfl⟩⟩
  | ok state =>
    have hstanding : (⟨state.isSome, 0⟩ : Standing) = Standing.start.after front := by
      rw [hstate state rfl, ← h.1]
    refine ⟨readOverrideElements_overlooked state h.2.1 back, .inl ?_⟩
    show readOverrideElements ending state (.opened tag :: .closed :: back) = _
    rw [readOverrideElements_namespace state h.2.1, hstanding, if_pos h]

end Documents

/-! ## Texts -/

/-- The end tag of an element, given what stands in its start tag. -/
def endTag (content : List Char) : List Char :=
  '<' :: '/' :: (content.takeWhile (!isBlank ·) ++ ['>'])

/-- An element without content at a place of a document, apart from how it is written. -/
structure Respelling where
  /-- Where the element stands. -/
  place : Place
  /-- The name and the attributes of the element, as written. -/
  content : List Char
  /-- The text behind the element. -/
  behind : List Char
  /-- The element can be written as one tag and as two. -/
  respellable : Respellable content

namespace Respelling

variable (e : Respelling)

/-- The element itself. -/
def tag : Tag :=
  .ofContent e.content

/-- The document with the element written as one tag. -/
def single : List Char :=
  e.place.withTag (slashed e.content true) e.behind

/-- The document with the element written as a start tag and an end tag. -/
def pair : List Char :=
  e.place.withTag e.content (endTag e.content ++ e.behind)

/-- The document without the element. -/
def without : List Char :=
  e.place.before ++ e.behind

/-- Where the reader of the document stands in front of the element. -/
def standing : Standing :=
  Standing.start.after e.place.front

/-- What is read behind the element. -/
def rest : Reading :=
  readEvents e.place.openNames e.behind

variable {e} {text : String}

theorem ofText_single (h : withoutByteOrderMark text = e.single) :
    Reading.ofText text =
      ⟨e.place.front ++ .childless e.tag :: e.rest.events, e.rest.ending⟩ :=
  Place.ofText_withTag h (e.respellable.isContent_slashed true)
    (e.respellable.tagEvent_slashed e.place.openNames true)

theorem ofText_pair (h : withoutByteOrderMark text = e.pair) :
    Reading.ofText text =
      ⟨e.place.front ++ .opened e.tag :: .closed :: e.rest.events, e.rest.ending⟩ := by
  have hend : readEvents (e.tag.name :: e.place.openNames) (endTag e.content ++ e.behind) =
      e.rest.cons .closed := ReadsAs.of_tagEvent e.respellable.isContent_closed
    (tagEvent_closed e.content e.place.openNames) e.behind
  rw [Place.ofText_withTag h e.respellable.inTag
    (e.respellable.tagEvent_slashed e.place.openNames false), Tag.openBehind, ← tag, hend]
  rfl

theorem ofText_without (h : withoutByteOrderMark text = e.without) :
    Reading.ofText text = ⟨e.place.front ++ e.rest.events, e.rest.ending⟩ :=
  Place.ofText_append h

end Respelling

/-- Every single tag of a document stands at such a place. -/
theorem exists_single_of_events {text : String} {front back : List Event} {tag : Tag}
    (h : (Reading.ofText text).events = front ++ .childless tag :: back) :
    ∃ content, Tag.ofContent content = tag ∧ (Respellable content → ∃ e : Respelling,
      withoutByteOrderMark text = e.single ∧ e.place.front = front ∧ e.content = content) := by
  obtain ⟨place, _, behind, _, hfront, htext, -, hevent⟩ := exists_place h (by simp)
  obtain ⟨-, content, rfl, htag, -⟩ := exists_of_tagEvent true hevent
  exact ⟨content, htag, fun hcontent => ⟨⟨place, content, behind, hcontent⟩, htext, hfront, rfl⟩⟩

/-- So does every start tag, and with it the end tag that follows it at once. -/
theorem exists_pair_of_events {text : String} {front back : List Event} {tag : Tag}
    (h : (Reading.ofText text).events = front ++ .opened tag :: back) :
    ∃ before content behind,
      withoutByteOrderMark text = before ++ '<' :: (content ++ '>' :: behind) ∧
      Tag.ofContent content = tag ∧ (Respellable content → ∀ behind',
        behind = endTag content ++ behind' → ∃ e : Respelling,
          withoutByteOrderMark text = e.pair ∧ e.place.front = front ∧ e.content = content) := by
  obtain ⟨place, content, behind, _, hfront, htext, -, hevent⟩ := exists_place h (by simp)
  obtain ⟨-, content', hslashed, htag, -⟩ := exists_of_tagEvent false hevent
  obtain rfl : content = content' := hslashed
  refine ⟨place.before, content, behind, htext, htag, ?_⟩
  rintro hcontent behind' rfl
  exact ⟨⟨place, content, behind', hcontent⟩, htext, hfront, rfl⟩

/-- An element without content can be written as one tag or as two at every place of an
override document, with the same overrides or the same refusal.  This fails for exactly one
kind of element, a namespace directly in the document that lacks its name or stands in front
of the root: as one tag it is not looked at and might as well not be there, as two it is
refused, unless something in front of it is. -/
theorem respelled_verdict (text : String) :
    (∀ front tag back, (Reading.ofText text).events = front ++ .childless tag :: back →
      ∃ content, Tag.ofContent content = tag ∧ (Respellable content → ∃ e : Respelling,
        withoutByteOrderMark text = e.single ∧ e.place.front = front ∧ e.content = content)) ∧
    (∀ front tag back, (Reading.ofText text).events = front ++ .opened tag :: back →
      ∃ before content behind,
        withoutByteOrderMark text = before ++ '<' :: (content ++ '>' :: behind) ∧
        Tag.ofContent content = tag ∧ (Respellable content → ∀ behind',
          behind = endTag content ++ behind' → ∃ e : Respelling,
            withoutByteOrderMark text = e.pair ∧ e.place.front = front ∧ e.content = content)) ∧
    ∀ e : Respelling, withoutByteOrderMark text = e.single → ∀ pair without : String,
      withoutByteOrderMark pair = e.pair → withoutByteOrderMark without = e.without →
        (¬ e.standing.Overlooks e.tag → readOverrides pair = readOverrides text) ∧
        (e.standing.Overlooks e.tag → readOverrides text = readOverrides without ∧
          (readOverrides pair = .error e.standing.refusal ∨
            ∃ error, readOverrides text = .error error ∧ readOverrides pair = .error error)) := by
  refine ⟨fun _ _ _ => exists_single_of_events, fun _ _ _ => exists_pair_of_events, ?_⟩
  intro e hsingle pair without hpair hwithout
  simp only [readOverrides, Respelling.ofText_single hsingle, Respelling.ofText_pair hpair,
    Respelling.ofText_without hwithout]
  exact ⟨readOverrideElements_respelled e.rest.events,
    readOverrideElements_of_overlooks e.rest.events⟩

theorem elementContent_overrides : ElementContent "Overrides".toList where
  inTag := by decide
  ne_nil := by decide
  head := by decide
  last := by decide

theorem respellable_struct : Respellable "Struct Name=\"S\"".toList where
  inTag := by decide
  ne_nil := by decide
  head := by decide
  last := by decide
  name := by decide

/-- An override of a struct in the root of a document. -/
def structRespelling : Respelling where
  place := .behindStart "Overrides".toList elementContent_overrides
  content := "Struct Name=\"S\"".toList
  behind := "</Overrides>".toList
  respellable := respellable_struct

theorem respelled_verdict_struct :
    (readOverrides "<Overrides><Struct Name=\"S\"/></Overrides>").map Overrides.size = .ok 1 ∧
      readOverrides "<Overrides><Struct Name=\"S\"></Struct></Overrides>" =
        readOverrides "<Overrides><Struct Name=\"S\"/></Overrides>" := by
  refine ⟨eq_ok_of_toOption (by decide +kernel), ?_⟩
  have hverdict := (respelled_verdict "<Overrides><Struct Name=\"S\"/></Overrides>").2.2
    structRespelling (by decide +kernel) "<Overrides><Struct Name=\"S\"></Struct></Overrides>"
    "<Overrides></Overrides>" (by decide +kernel) (by decide +kernel)
  exact hverdict.1 (by decide +kernel)

/-- A namespace without a name, and one in front of the root: they are refused as two tags
only. -/
theorem namespace_overlooked_as_one_tag :
    (readOverrides "<Overrides><Namespace/></Overrides>" = .ok .empty ∧
      readOverrides "<Overrides><Namespace></Namespace></Overrides>" =
        .error (.missingAttribute "Namespace" "Name")) ∧
    (readOverrides "<Namespace Name=\"N\"/><Overrides/>" = .ok .empty ∧
      readOverrides "<Namespace Name=\"N\"></Namespace><Overrides/>" =
        .error (.invalidStructure (outsideRoot "override" "Overrides"))) := by
  refine ⟨⟨?_, ?_⟩, ?_, ?_⟩
  · decide +kernel
  · decide +kernel
  · decide +kernel
  · decide +kernel

end TypeProjection
