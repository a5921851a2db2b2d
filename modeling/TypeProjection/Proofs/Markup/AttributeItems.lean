/-
  Proofs/Markup/AttributeItems.lean --- the attributes of a tag and what is passed over between
  them.

  A tag is read one item at a time: an attribute, or a piece that is none (`nextItem`).  An
  item is an attribute exactly if a key, a sign and a value in quotes stand there and the key
  is new (`nextItem_eq_ok_iff`).  So there is nothing but attributes in a tag exactly if its
  attributes are well-formed and no key is repeated (`attributeItems_eq_map_iff`).
-/
import Mathlib.Data.List.TakeWhile
import TypeProjection.Proofs.Markup.Element

set_option autoImplicit false

namespace TypeProjection.Markup

/-! ## Blanks, keys and values -/

theorem skipBlanks_gap {gap : List Char} (h : IsGap gap) : skipBlanks gap = [] := by
  have hgap : skipBlanks (gap ++ []) = [] := List.dropWhile_append_of_pos h
  rwa [List.append_nil] at hgap

theorem skipBlanks_append {gap : List Char} (h : IsGap gap) {c : Char}
    (hc : isBlank c = false) (rest : List Char) :
    skipBlanks (gap ++ c :: rest) = c :: rest := by
  rw [skipBlanks, List.dropWhile_append_of_pos h, List.dropWhile_cons_of_neg (by simp [hc])]

theorem isGap_of_skipBlanks {text : List Char} (h : skipBlanks text = []) : IsGap text :=
  List.dropWhile_eq_nil_iff.1 h

theorem exists_gap_of_skipBlanks {text cs : List Char} {c : Char} (h : skipBlanks text = c :: cs) :
    ∃ gap, IsGap gap ∧ text = gap ++ c :: cs ∧ isBlank c = false := by
  refine ⟨text.takeWhile isBlank, fun d hd => List.mem_takeWhile_imp hd, ?_, ?_⟩
  · rw [← h, skipBlanks, List.takeWhile_append_dropWhile]
  · have hhead := List.head?_dropWhile_not isBlank text
    rw [← skipBlanks, h] at hhead
    simpa using hhead

/-- The key of an attribute as it can be read: it begins with no blank, and there is neither
a blank nor a sign behind its first character. -/
def IsKey (key : List Char) : Prop :=
  ∃ c cs, key = c :: cs ∧ isBlank c = false ∧ ∀ d ∈ cs, endsKey d = false

theorem IsName.isKey {name : String} (h : IsName name) : IsKey name.toList := by
  obtain ⟨c, cs, heq, hc, hcs⟩ := h
  refine ⟨c, cs, heq, isBlank_eq_false_of_isNameChar (isNameChar_of_isNameStart hc), ?_⟩
  exact fun d hd => endsKey_eq_false_of_isNameChar (hcs d hd)

/-- A key is read up to the sign and the blanks in front of it. -/
theorem splitKey_append {key : List Char} (h : IsKey key) {before : List Char}
    (hbefore : IsGap before) (rest : List Char) :
    splitKey (key ++ (before ++ '=' :: rest)) = (key, before ++ '=' :: rest) := by
  obtain ⟨c, cs, rfl, -, hcs⟩ := h
  have hpass : ∀ d ∈ cs, (!endsKey d) = true := fun d hd => by
    rw [hcs d hd]
    rfl
  have hstop : ∃ d ds, before ++ '=' :: rest = d :: ds ∧ endsKey d = true := by
    cases before with
    | nil => exact ⟨'=', rest, rfl, rfl⟩
    | cons d ds =>
      refine ⟨d, _, rfl, ?_⟩
      rw [endsKey, hbefore d List.mem_cons_self, Bool.or_true]
  obtain ⟨d, ds, hds, hd⟩ := hstop
  rw [hds, List.cons_append]
  simp only [splitKey]
  rw [List.takeWhile_append_of_pos hpass, List.dropWhile_append_of_pos hpass,
    List.takeWhile_cons_of_neg (by simp [hd]), List.dropWhile_cons_of_neg (by simp [hd]),
    List.append_nil]

theorem isKey_splitKey {c : Char} (h : isBlank c = false) (cs : List Char) :
    IsKey (splitKey (c :: cs)).1 := by
  refine ⟨c, _, rfl, h, fun d hd => ?_⟩
  simpa using List.mem_takeWhile_imp hd

theorem splitKey_append_splitKey (c : Char) (cs : List Char) :
    (splitKey (c :: cs)).1 ++ (splitKey (c :: cs)).2 = c :: cs :=
  congrArg (c :: ·) List.takeWhile_append_dropWhile

theorem splitValue_append {quote : Char} {value : List Char} (h : quote ∉ value)
    (rest : List Char) : splitValue quote (value ++ quote :: rest) = some (value, rest) := by
  induction value with
  | nil => simp [splitValue]
  | cons c value ih =>
    have hc : c ≠ quote := fun heq => h (heq ▸ List.mem_cons_self)
    have hrest := ih fun hmem => h (List.mem_cons_of_mem _ hmem)
    simp [splitValue, hc, hrest]

theorem eq_of_splitValue {quote : Char} {cs value rest : List Char}
    (h : splitValue quote cs = some (value, rest)) :
    cs = value ++ quote :: rest ∧ quote ∉ value := by
  induction cs generalizing value with
  | nil => cases h
  | cons c cs ih =>
    rw [splitValue] at h
    split at h
    · rename_i hc
      obtain ⟨rfl, rfl⟩ := Prod.mk.inj (Option.some.inj h)
      exact ⟨by rw [hc]; rfl, List.not_mem_nil⟩
    · rename_i hc
      obtain ⟨⟨value', rest'⟩, hsplit, heq⟩ := Option.map_eq_some_iff.1 h
      obtain ⟨rfl, rfl⟩ := Prod.mk.inj heq
      obtain ⟨rfl, hvalue⟩ := ih hsplit
      refine ⟨rfl, fun hmem => ?_⟩
      rcases List.mem_cons.1 hmem with rfl | hmem
      · exact hc rfl
      · exact hvalue hmem

/-! ## Well-formed attributes -/

/-- A text begins with an attribute: a key, a sign and a value in quotes, with blanks
between them. -/
inductive AttributeAt (a : Attribute) (rest : List Char) : List Char → Prop where
  /-- the attribute and what is behind it -/
  | mk {gap before after : List Char} {quote : Char} (hgap : IsGap gap)
    (hkey : IsKey a.key.toList) (hbefore : IsGap before) (hafter : IsGap after)
    (hquote : quote = '"' ∨ quote = '\'') (hvalue : quote ∉ a.value.toList) :
    AttributeAt a rest (gap ++ (a.key.toList ++ (before ++ '=' :: (after ++ quote ::
      (a.value.toList ++ quote :: rest)))))

/-- A text in which attributes stand, and nothing but attributes. -/
inductive AreAttributes : List Attribute → List Char → Prop where
  /-- no attribute is left -/
  | nil {gap : List Char} (hgap : IsGap gap) : AreAttributes [] gap
  /-- an attribute and those behind it -/
  | cons {a : Attribute} {attributes : List Attribute} {text rest : List Char}
    (ha : AttributeAt a rest text) (h : AreAttributes attributes rest) :
    AreAttributes (a :: attributes) text

/-! ## Items -/

/-- Why a piece of a tag is no attribute. -/
inductive AttributeFault where
  /-- there is no sign behind the key -/
  | noSign (key : String)
  /-- there is nothing behind the sign -/
  | noValue (key : String)
  /-- the value is not in quotes -/
  | unquoted (key : String)
  /-- the value has no closing quote -/
  | openQuote (key : String)
  /-- the key was read before -/
  | repeated (key : String)
  deriving DecidableEq, Repr, Inhabited

/-- The item at a character that is no blank, the keys that were read behind it, and where
reading goes on; the keys `seen` were read before. -/
def firstItem (seen : List String) (c : Char) (cs : List Char) :
    Except AttributeFault Attribute × List String × List Char :=
  let key := String.ofList (splitKey (c :: cs)).1
  match skipBlanks (splitKey (c :: cs)).2 with
  | [] => (.error (.noSign key), seen, [])
  | d :: after =>
    if d ≠ '=' then (.error (.noSign key), seen, d :: after)
    else if key ∈ seen then (.error (.repeated key), seen, nextBlank (d :: after))
    else
      match skipBlanks after with
      | [] => (.error (.noValue key), key :: seen, [])
      | q :: rest =>
        if q = '"' ∨ q = '\'' then
          match splitValue q rest with
          | none => (.error (.openQuote key), key :: seen, [])
          | some (value, behind) => (.ok ⟨key, String.ofList value⟩, key :: seen, behind)
        else (.error (.unquoted key), key :: seen, nextBlank (q :: rest))

/-- The first item of a text, unless there are only blanks in it. -/
def nextItem (seen : List String) (text : List Char) :
    Option (Except AttributeFault Attribute × List String × List Char) :=
  match skipBlanks text with
  | [] => none
  | c :: cs => some (firstItem seen c cs)

theorem nextItem_eq_none_iff {seen : List String} {text : List Char} :
    nextItem seen text = none ↔ IsGap text := by
  refine ⟨fun h => ?_, fun h => by rw [nextItem, skipBlanks_gap h]⟩
  cases htext : skipBlanks text with
  | nil => exact isGap_of_skipBlanks htext
  | cons c cs =>
    rw [nextItem, htext] at h
    cases h

/-- Reading goes on behind an item, and keys that were read stay read. -/
theorem advances_of_nextItem {seen seen' : List String} {text rest : List Char}
    {item : Except AttributeFault Attribute} (h : nextItem seen text = some (item, seen', rest)) :
    rest.length < text.length ∧ seen ⊆ seen' := by
  unfold nextItem firstItem at h
  split at h
  · cases h
  rename_i c cs htext
  have hsome : 0 < text.length := by
    have hle := skipBlanks_length_le text
    rw [htext, List.length_cons] at hle
    omega
  dsimp only at h
  split at h
  · cases h
    exact ⟨hsome, List.Subset.refl seen⟩
  rename_i d after hafter
  have hsign := length_lt_of_key htext hafter
  split at h
  · cases h
    exact ⟨hsign, List.Subset.refl seen⟩
  split at h
  · cases h
    exact ⟨Nat.lt_of_le_of_lt (nextBlank_length_le _) hsign, List.Subset.refl seen⟩
  have hkey := List.subset_cons_self (String.ofList (splitKey (c :: cs)).1) seen
  split at h
  · cases h
    exact ⟨hsome, hkey⟩
  rename_i q behind hvalue
  have hbehind : behind.length + 1 < text.length := by
    have hle := skipBlanks_length_le after
    rw [hvalue] at hle
    simp only [List.length_cons] at hle hsign
    omega
  split at h
  · split at h
    · cases h
      exact ⟨hsome, hkey⟩
    · rename_i hsplit
      cases h
      have hvalue := length_of_splitValue hsplit
      exact ⟨by omega, hkey⟩
  · cases h
    exact ⟨Nat.lt_of_le_of_lt (nextBlank_length_le _) hbehind, hkey⟩

/-- An item is an attribute exactly if an attribute with a new key stands there. -/
theorem nextItem_eq_ok_iff {seen seen' : List String} {text rest : List Char} {a : Attribute} :
    nextItem seen text = some (.ok a, seen', rest) ↔
      AttributeAt a rest text ∧ a.key ∉ seen ∧ seen' = a.key :: seen := by
  constructor
  · intro h
    unfold nextItem firstItem at h
    split at h
    · cases h
    rename_i c cs htext
    obtain ⟨gap, hgap, rfl, hc⟩ := exists_gap_of_skipBlanks htext
    dsimp only at h
    split at h
    · cases h
    rename_i d after hafter
    obtain ⟨before, hbefore, hkeyRest, -⟩ := exists_gap_of_skipBlanks hafter
    split at h
    · cases h
    rename_i hsign
    split at h
    · cases h
    rename_i hnew
    split at h
    · cases h
    rename_i q valueRest hvalueRest
    obtain ⟨after', hafter', rfl, -⟩ := exists_gap_of_skipBlanks hvalueRest
    split at h
    · rename_i hquote
      split at h
      · cases h
      · rename_i value behind hsplit
        obtain ⟨rfl, hvalue⟩ := eq_of_splitValue hsplit
        cases h
        have hkey : IsKey (String.ofList (splitKey (c :: cs)).1).toList := by
          rw [String.toList_ofList]
          exact isKey_splitKey hc cs
        have hat : AttributeAt ⟨String.ofList (splitKey (c :: cs)).1, String.ofList value⟩ rest _ :=
          .mk hgap hkey hbefore hafter' hquote (by rwa [String.toList_ofList])
        refine ⟨?_, hnew, rfl⟩
        obtain rfl : d = '=' := not_not.1 hsign
        rwa [String.toList_ofList, String.toList_ofList, ← hkeyRest,
          splitKey_append_splitKey] at hat
    · cases h
  · rintro ⟨⟨hgap, hkey, hbefore, hafter, hquote, hvalue⟩, hnew, rfl⟩
    rename_i gap before after quote
    have hsplit := splitKey_append hkey hbefore
      (after ++ quote :: (a.value.toList ++ quote :: rest))
    have hquoteBlank : isBlank quote = false := by
      rcases hquote with rfl | rfl <;> rfl
    obtain ⟨c, cs, heq, hc, -⟩ := hkey
    rw [heq, List.cons_append] at hsplit
    rw [nextItem, heq, List.cons_append, skipBlanks_append hgap hc]
    dsimp only [firstItem]
    rw [hsplit, skipBlanks_append hbefore rfl]
    dsimp only
    rw [← heq, String.ofList_toList, if_neg (by simp), if_neg hnew,
      skipBlanks_append hafter hquoteBlank]
    dsimp only
    rw [if_pos hquote, splitValue_append hvalue]
    simp only [String.ofList_toList]

set_option linter.unusedVariables false in
/-- All items of a text in which the keys `seen` were read before. -/
def attributeItems (seen : List String) (text : List Char) :
    List (Except AttributeFault Attribute) :=
  match hitem : nextItem seen text with
  | none => []
  | some (item, seen', rest) => item :: attributeItems seen' rest
termination_by text.length
decreasing_by exact (advances_of_nextItem hitem).1

/-- The items of a text, one at a time. -/
theorem attributeItems_eq (seen : List String) (text : List Char) :
    attributeItems seen text =
      match nextItem seen text with
      | none => []
      | some (item, seen', rest) => item :: attributeItems seen' rest := by
  rw [attributeItems]
  split <;> simp_all

/-- There is nothing but attributes in a text exactly if they are well-formed there and have
new and distinct keys. -/
theorem attributeItems_eq_map_iff {attributes : List Attribute} {seen : List String}
    {text : List Char} :
    attributeItems seen text = attributes.map .ok ↔
      AreAttributes attributes text ∧ (attributes.map Attribute.key).Nodup ∧
        ∀ a ∈ attributes, a.key ∉ seen := by
  induction attributes generalizing seen text with
  | nil =>
    have hnil : AreAttributes [] text ↔ nextItem seen text = none := by
      rw [nextItem_eq_none_iff]
      exact ⟨fun h => by cases h; assumption, .nil⟩
    rw [hnil, attributeItems_eq]
    cases nextItem seen text <;> simp
  | cons a attributes ih =>
    have hcons : attributeItems seen text = (a :: attributes).map .ok ↔
        ∃ rest, nextItem seen text = some (.ok a, a.key :: seen, rest) ∧
          attributeItems (a.key :: seen) rest = attributes.map .ok := by
      rw [attributeItems_eq]
      constructor
      · intro h
        cases hitem : nextItem seen text with
        | none => simp [hitem] at h
        | some found =>
          obtain ⟨item, seen', rest⟩ := found
          rw [hitem] at h
          obtain ⟨rfl, hrest⟩ := List.cons.inj h
          obtain ⟨-, -, rfl⟩ := nextItem_eq_ok_iff.1 hitem
          exact ⟨rest, rfl, hrest⟩
      · rintro ⟨rest, hitem, hrest⟩
        rw [hitem, List.map_cons, ← hrest]
    rw [hcons]
    simp only [nextItem_eq_ok_iff, ih, and_true, List.map_cons, List.nodup_cons,
      List.forall_mem_cons]
    constructor
    · rintro ⟨rest, ⟨ha, hnew⟩, hrest, hnodup, hseen⟩
      refine ⟨.cons ha hrest, ⟨fun hmem => ?_, hnodup⟩, hnew, fun b hb => ?_⟩
      · obtain ⟨b, hb, hkey⟩ := List.mem_map.1 hmem
        exact hseen b hb (hkey ▸ List.mem_cons_self)
      · exact fun hmem => hseen b hb (List.mem_cons_of_mem _ hmem)
    · rintro ⟨hall, ⟨hnotin, hnodup⟩, hnew, hseen⟩
      rcases hall with _ | ⟨ha, hrest⟩
      refine ⟨_, ⟨ha, hnew⟩, hrest, hnodup, fun b hb hmem => ?_⟩
      rcases List.mem_cons.1 hmem with hkey | hmem
      · exact hnotin (hkey ▸ List.mem_map_of_mem hb)
      · exact hseen b hb hmem

/-- A tag has nothing but attributes exactly if they are well-formed and no key is repeated. -/
theorem forall_isOk_attributeItems_iff {text : List Char} :
    (∀ item ∈ attributeItems [] text, item.isOk = true) ↔
      ∃ attributes : List Attribute,
        AreAttributes attributes text ∧ (attributes.map Attribute.key).Nodup := by
  have hmap : ∀ items : List (Except AttributeFault Attribute),
      (∀ item ∈ items, item.isOk = true) →
        ∃ attributes : List Attribute, items = attributes.map .ok := by
    intro items
    induction items with
    | nil => exact fun _ => ⟨[], rfl⟩
    | cons item items ih =>
      intro h
      obtain ⟨hitem, h⟩ := List.forall_mem_cons.1 h
      obtain ⟨attributes, rfl⟩ := ih h
      cases item with
      | error fault => cases hitem
      | ok a => exact ⟨a :: attributes, rfl⟩
  constructor
  · intro h
    obtain ⟨attributes, hitems⟩ := hmap _ h
    obtain ⟨hall, hnodup, -⟩ := attributeItems_eq_map_iff.1 hitems
    exact ⟨attributes, hall, hnodup⟩
  · rintro ⟨attributes, hall, hnodup⟩ item hitem
    rw [attributeItems_eq_map_iff.2 ⟨hall, hnodup, by simp⟩] at hitem
    obtain ⟨a, -, rfl⟩ := List.mem_map.1 hitem
    rfl

/-! ## Attributes that are read -/

/-- The attributes that are read of a text, one item at a time. -/
theorem readAttributes_step (seen : List String) (text : List Char) :
    readAttributes seen text =
      match nextItem seen text with
      | none => []
      | some (.ok a, seen', rest) => a :: readAttributes seen' rest
      | some (.error _, seen', rest) => readAttributes seen' rest := by
  have hend : ∀ seen, readAttributes seen [] = [] := by
    intro seen
    rw [readAttributes_eq]
    rfl
  rw [readAttributes_eq, nextItem]
  cases skipBlanks text with
  | nil => rfl
  | cons c cs =>
    dsimp only [firstItem]
    cases skipBlanks (splitKey (c :: cs)).2 with
    | nil => exact (hend _).symm
    | cons d after =>
      dsimp only
      split
      · rfl
      split
      · rfl
      cases skipBlanks after with
      | nil => exact (hend _).symm
      | cons q rest =>
        dsimp only
        split
        · cases splitValue q rest with
          | none => exact (hend _).symm
          | some found => rfl
        · rfl

/-- What is read are the items that are attributes. -/
theorem readAttributes_eq_filterMap (seen : List String) (text : List Char) :
    readAttributes seen text = (attributeItems seen text).filterMap Except.toOption := by
  fun_induction attributeItems seen text with
  | case1 seen text hitem => rw [readAttributes_step, hitem, List.filterMap_nil]
  | case2 seen text item seen' rest hitem ih =>
    rw [readAttributes_step, hitem]
    cases item with
    | error fault => exact ih
    | ok a => exact congrArg (a :: ·) ih

/-- Well-formed attributes with distinct keys are read as they stand there. -/
theorem readAttributes_of_areAttributes {attributes : List Attribute} {text : List Char}
    (h : AreAttributes attributes text) (hnodup : (attributes.map Attribute.key).Nodup) :
    readAttributes [] text = attributes := by
  have hnew : ∀ a ∈ attributes, a.key ∉ [] := fun _ _ => List.not_mem_nil
  rw [readAttributes_eq_filterMap, attributeItems_eq_map_iff.2 ⟨h, hnodup, hnew⟩,
    List.filterMap_map]
  exact List.filterMap_some

/-- An attribute that can be written: it has a key, and a kind of quotes that its value does
not close. -/
structure Attribute.Writable (a : Attribute) : Prop where
  /-- The key can be read. -/
  key : IsKey a.key.toList
  /-- The value can stand in one kind of quotes. -/
  value : '"' ∉ a.value.toList ∨ '\'' ∉ a.value.toList

/-- Every attribute that is read can be written, and no two have the same key. -/
theorem writable_of_readAttributes (seen : List String) (text : List Char) :
    (∀ a ∈ readAttributes seen text, a.Writable ∧ a.key ∉ seen) ∧
      ((readAttributes seen text).map Attribute.key).Nodup := by
  rw [readAttributes_eq_filterMap]
  fun_induction attributeItems seen text with
  | case1 => simp
  | case2 seen text item seen' rest hitem ih =>
    obtain ⟨hall, hnodup⟩ := ih
    have hseen := (advances_of_nextItem hitem).2
    have hrest : ∀ a ∈ (attributeItems seen' rest).filterMap Except.toOption,
        a.Writable ∧ a.key ∉ seen := by
      intro a ha
      exact ⟨(hall a ha).1, fun hmem => (hall a ha).2 (hseen hmem)⟩
    cases item with
    | error fault => exact ⟨hrest, hnodup⟩
    | ok a =>
      obtain ⟨hat, hnew, rfl⟩ := nextItem_eq_ok_iff.1 hitem
      have ha : a.Writable := by
        obtain ⟨-, hkey, -, -, rfl | rfl, hvalue⟩ := hat
        · exact ⟨hkey, .inl hvalue⟩
        · exact ⟨hkey, .inr hvalue⟩
      refine ⟨List.forall_mem_cons.2 ⟨⟨ha, hnew⟩, hrest⟩, ?_⟩
      refine List.nodup_cons.2 ⟨fun hmem => ?_, hnodup⟩
      obtain ⟨b, hb, hkey⟩ := List.mem_map.1 hmem
      exact (hall b hb).2 (hkey ▸ List.mem_cons_self)

end TypeProjection.Markup
