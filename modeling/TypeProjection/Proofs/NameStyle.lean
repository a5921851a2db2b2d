/-
  Proofs/NameStyle.lean --- what underscores do to derived names.

  A type is named by the pieces between underscores, so that an underscore between two names
  joins the names derived from them, and a run of underscores says no more than one.  The
  name of a property drops the underscores in front and keeps all others; what it starts
  with is in upper case for good, so that deriving it again changes nothing.
-/
import TypeProjection.NameStyle
import TypeProjection.Proofs.Casing.Settled

set_option autoImplicit false

namespace TypeProjection

/-- A name of so many underscores. -/
def underscores (k : Nat) : String :=
  String.ofList (List.replicate k '_')

@[simp] theorem toList_underscores (k : Nat) : (underscores k).toList = List.replicate k '_' :=
  String.toList_ofList

/-! ## Pieces -/

theorem capitalizePiece_eq_nil_iff {piece : List Char} : capitalizePiece piece = [] ↔ piece = [] := by
  cases piece with
  | nil => exact iff_of_true rfl rfl
  | cons c cs => simp [capitalizePiece, Casing.upper_ne_nil]

/-- A change of case does not bring in underscores. -/
theorem underscore_not_mem_capitalizePiece {piece : List Char} (h : '_' ∉ piece) :
    '_' ∉ capitalizePiece piece := by
  cases piece with
  | nil => exact h
  | cons c cs =>
    obtain ⟨hc, hcs⟩ := not_or.1 (mt List.mem_cons.2 h)
    rw [capitalizePiece, List.mem_append, not_or]
    exact ⟨Casing.not_mem_imageOf Casing.avoids_upper_underscore (Ne.symm hc),
      Casing.not_mem_lowercase Casing.avoids_lower_underscore (by decide) hcs⟩

/-! ## Types -/

@[simp] theorem joinCapitalized_nil : joinCapitalized [] = [] := rfl

theorem joinCapitalized_append (a b : List Char) :
    joinCapitalized (a ++ '_' :: b) = joinCapitalized a ++ joinCapitalized b := by
  rw [joinCapitalized, piecesBetween_append, List.flatMap_append, joinCapitalized, joinCapitalized]

theorem joinCapitalized_replicate_append (k : Nat) (a : List Char) :
    joinCapitalized (List.replicate k '_' ++ a) = joinCapitalized a := by
  induction k with
  | zero => rfl
  | succ k ih =>
    rw [List.replicate_succ, List.cons_append, ← ih]
    exact joinCapitalized_append [] _

theorem joinCapitalized_append_replicate (a : List Char) (k : Nat) :
    joinCapitalized (a ++ List.replicate k '_') = joinCapitalized a := by
  cases k with
  | zero => rw [List.replicate_zero, List.append_nil]
  | succ k =>
    have hnil : joinCapitalized (List.replicate k '_') = [] := by
      simpa using joinCapitalized_replicate_append k []
    rw [List.replicate_succ, joinCapitalized_append, hnil, List.append_nil]

theorem underscore_not_mem_joinCapitalized (a : List Char) : '_' ∉ joinCapitalized a := by
  rw [joinCapitalized, List.mem_flatMap]
  rintro ⟨piece, hpiece, hmem⟩
  exact underscore_not_mem_capitalizePiece (not_mem_of_mem_piecesBetween hpiece) hmem

theorem joinCapitalized_eq_nil_iff {a : List Char} :
    joinCapitalized a = [] ↔ ∀ c ∈ a, c = '_' := by
  rw [joinCapitalized, List.flatMap_eq_nil_iff, ← forall_piecesBetween_eq_nil_iff]
  exact forall₂_congr fun _ _ => capitalizePiece_eq_nil_iff

theorem typeNameOf_eq_empty_iff {name : String} :
    typeNameOf name = "" ↔ ∀ c ∈ name.toList, c = '_' := by
  rw [← joinCapitalized_eq_nil_iff, typeNameOf, ← String.toList_inj, String.toList_ofList]
  rfl

/-! ## Properties -/

/-- An underscore in front of a name is not seen in the property. -/
theorem capitalizeLeading_underscore (name : List Char) :
    capitalizeLeading ('_' :: name) = capitalizeLeading name := by
  rw [capitalizeLeading, List.dropWhile_cons_of_pos (by decide), capitalizeLeading]

theorem capitalizeLeading_cons_of_ne {c : Char} (h : c ≠ '_') (cs : List Char) :
    capitalizeLeading (c :: cs) = Casing.upper c ++ cs := by
  rw [capitalizeLeading, List.dropWhile_cons_of_neg (by simpa using h)]

theorem capitalizeLeading_replicate_append (k : Nat) (name : List Char) :
    capitalizeLeading (List.replicate k '_' ++ name) = capitalizeLeading name := by
  induction k with
  | zero => rfl
  | succ k ih => rw [List.replicate_succ, List.cons_append, capitalizeLeading_underscore, ih]

/-- Without the underscores in front nothing is left exactly of a name of underscores. -/
theorem capitalizeLeading_eq_nil_iff {name : List Char} :
    capitalizeLeading name = [] ↔ ∀ c ∈ name, c = '_' := by
  induction name with
  | nil => simp [capitalizeLeading]
  | cons c cs ih =>
    by_cases hc : c = '_'
    · rw [hc, capitalizeLeading_underscore, ih, List.forall_mem_cons, and_iff_right rfl]
    · rw [capitalizeLeading_cons_of_ne hc, List.forall_mem_cons]
      simp [Casing.upper_ne_nil, hc]

/-- The property of a field is empty exactly if the field is named by underscores alone. -/
theorem propertyNameOf_eq_empty_iff {name : String} :
    propertyNameOf name = "" ↔ ∀ c ∈ name.toList, c = '_' := by
  rw [← capitalizeLeading_eq_nil_iff, propertyNameOf, ← String.toList_inj, String.toList_ofList]
  rfl

/-- A name starts with no underscore once it is capitalized, and with a character that is
its own upper case. -/
theorem capitalizeLeading_capitalizeLeading (name : List Char) :
    capitalizeLeading (capitalizeLeading name) = capitalizeLeading name := by
  induction name with
  | nil => rfl
  | cons c cs ih =>
    by_cases hc : c = '_'
    · rw [hc, capitalizeLeading_underscore, ih]
    · obtain ⟨d, ds, hupper⟩ := List.exists_cons_of_ne_nil (Casing.upper_ne_nil c)
      have hd : d ≠ '_' := by
        rintro rfl
        exact Casing.not_mem_imageOf Casing.avoids_upper_underscore hc
          (show '_' ∈ Casing.upper c from hupper ▸ List.mem_cons_self)
      have hfixed : Casing.upper d = [d] := Casing.upper_head_upper (c := c) (by rw [hupper]; rfl)
      rw [capitalizeLeading_cons_of_ne hc, hupper, List.cons_append,
        capitalizeLeading_cons_of_ne hd, hfixed, List.singleton_append]

/-! ## Names -/

/-- An underscore between two names joins the type names derived from them.  No type name has
underscores, none is empty but those derived from underscores alone, and it does not matter
how many underscores stand at the ends of the name or where there is one.  A property name
is the same when it is derived again, and does not depend on underscores in front. -/
theorem derivedNames_verdict (a b : String) (k : Nat) :
    typeNameOf (a ++ "_" ++ b) = typeNameOf a ++ typeNameOf b ∧
      '_' ∉ (typeNameOf a).toList ∧
      (typeNameOf a = "" ↔ ∀ c ∈ a.toList, c = '_') ∧
      typeNameOf (underscores k ++ a) = typeNameOf a ∧
      typeNameOf (a ++ underscores k) = typeNameOf a ∧
      typeNameOf (a ++ "_" ++ underscores k ++ b) = typeNameOf (a ++ "_" ++ b) ∧
      propertyNameOf (propertyNameOf a) = propertyNameOf a ∧
      propertyNameOf (underscores k ++ a) = propertyNameOf a := by
  have hjoin : (a ++ "_" ++ b).toList = a.toList ++ '_' :: b.toList := by simp
  have hrun : (a ++ "_" ++ underscores k ++ b).toList =
      a.toList ++ '_' :: (List.replicate k '_' ++ b.toList) := by simp
  refine ⟨?join, ?clear, typeNameOf_eq_empty_iff, ?front, ?back, ?run, ?again, ?leading⟩
  case join =>
    rw [typeNameOf, hjoin, joinCapitalized_append, String.ofList_append, typeNameOf, typeNameOf]
  case clear =>
    rw [typeNameOf, String.toList_ofList]
    exact underscore_not_mem_joinCapitalized _
  case front =>
    rw [typeNameOf, String.toList_append, toList_underscores, joinCapitalized_replicate_append,
      typeNameOf]
  case back =>
    rw [typeNameOf, String.toList_append, toList_underscores, joinCapitalized_append_replicate,
      typeNameOf]
  case run =>
    rw [typeNameOf, typeNameOf, hrun, hjoin, joinCapitalized_append,
      joinCapitalized_replicate_append, joinCapitalized_append]
  case again =>
    rw [propertyNameOf, propertyNameOf, String.toList_ofList, capitalizeLeading_capitalizeLeading]
  case leading =>
    rw [propertyNameOf, String.toList_append, toList_underscores,
      capitalizeLeading_replicate_append, propertyNameOf]

example : typeNameOf "_MATRIX__3X2_F_" = "Matrix3x2F" := by decide +kernel

end TypeProjection
