/-
  Proofs/Markup/Scanning.lean --- readers look at nothing of what they leave.

  What a reader takes off the front of a text does not depend on what follows: put anything
  else behind it, and the same is taken.  For a whole piece of markup this is
  `exists_used_of_readPiece`, for the text in front of it `exists_used_of_skipText`.
-/
import TypeProjection.Proofs.Markup.Reading
import TypeProjection.Proofs.Traversal

set_option autoImplicit false

namespace TypeProjection.Markup

/-- A reader takes a text off, whatever follows it. -/
def Takes (read : List Char → Option (List Char)) (used : List Char) : Prop :=
  ∀ rest, read (used ++ rest) = some rest

/-! ## Marks -/

theorem behindFirst?_self (mark rest : List Char) :
    behindFirst? mark (mark ++ rest) = some rest := by
  have hbehind : behind? mark (mark ++ rest) = some rest := behind?_eq_some_iff.2 rfl
  cases htext : mark ++ rest with
  | nil => rwa [htext] at hbehind
  | cons c cs =>
    rw [htext] at hbehind
    rw [behindFirst?, hbehind]

/-- What stands in front of the first occurrence of a mark is taken off with the mark. -/
theorem exists_body_of_behindFirst? {mark cs rest : List Char}
    (h : behindFirst? mark cs = some rest) :
    ∃ body, cs = body ++ mark ++ rest ∧ Takes (behindFirst? mark) (body ++ mark) := by
  have hself : Takes (behindFirst? mark) mark := behindFirst?_self mark
  induction cs with
  | nil =>
    have hmark := behind?_eq_some_iff.1 h
    exact ⟨[], hmark, hself⟩
  | cons c cs ih =>
    rw [behindFirst?] at h
    cases hhere : behind? mark (c :: cs) with
    | some found =>
      rw [hhere] at h
      obtain rfl := Option.some.inj h
      exact ⟨[], behind?_eq_some_iff.1 hhere, hself⟩
    | none =>
      rw [hhere] at h
      obtain ⟨body, hcs, htakes⟩ := ih h
      refine ⟨c :: body, by rw [hcs]; rfl, fun rest' => ?_⟩
      -- a mark from here on would already stand in what is taken off
      have hlater : behind? mark (c :: (body ++ mark) ++ rest') = none := by
        rw [Option.eq_none_iff_forall_ne_some]
        intro found hfound
        have hprefix : mark <+: c :: (body ++ mark) := by
          refine List.prefix_of_prefix_length_le ⟨found, (behind?_eq_some_iff.1 hfound).symm⟩
            ⟨rest', rfl⟩ ?_
          simp only [List.length_cons, List.length_append]
          omega
        obtain ⟨after, hafter⟩ := hprefix
        have hfoundHere : behind? mark (c :: cs) = some (after ++ rest) := by
          rw [behind?_eq_some_iff, ← List.append_assoc, hafter, hcs]
          rfl
        rw [hhere] at hfoundHere
        cases hfoundHere
      have hread := htakes rest'
      show behindFirst? mark (c :: ((body ++ mark) ++ rest')) = some rest'
      rw [behindFirst?]
      rw [List.cons_append] at hlater
      rw [hlater, hread]

/-- A mark that a text begins with is found again, whatever stands behind a character that
the mark does not have. -/
theorem isSome_behind?_congr {mark used : List Char} {c : Char} (hused : c ∈ used)
    (hmark : c ∉ mark) (rest rest' : List Char) :
    (behind? mark (used ++ rest)).isSome = (behind? mark (used ++ rest')).isSome := by
  have hbegins : ∀ rest : List Char,
      (behind? mark (used ++ rest)).isSome = true ↔ mark <+: used := by
    intro rest
    rw [Option.isSome_iff_exists]
    simp only [behind?_eq_some_iff]
    constructor
    · rintro ⟨found, hfound⟩
      rcases List.append_eq_append_iff.1 hfound with ⟨part, rfl, -⟩ | ⟨part, rfl, -⟩
      · exact absurd (List.mem_append_left _ hused) hmark
      · exact List.prefix_append _ _
    · rintro ⟨part, rfl⟩
      exact ⟨part ++ rest, List.append_assoc ..⟩
  rw [Bool.eq_iff_iff, hbegins, hbegins]

/-- What stands between two marks is taken off with them. -/
theorem exists_used_of_bind {mark mark' cs rest : List Char}
    (h : (behind? mark cs).bind (behindFirst? mark') = some rest) :
    ∃ body, cs = mark ++ (body ++ mark') ++ rest ∧
      Takes (fun cs => (behind? mark cs).bind (behindFirst? mark')) (mark ++ (body ++ mark')) := by
  obtain ⟨inner, hinner, h⟩ := Option.bind_eq_some_iff.1 h
  obtain ⟨body, rfl, htakes⟩ := exists_body_of_behindFirst? h
  refine ⟨body, ?_, fun rest' => ?_⟩
  · simp only [behind?_eq_some_iff.1 hinner, List.append_assoc]
  · have hmark : behind? mark (mark ++ (body ++ mark') ++ rest') = some (body ++ mark' ++ rest') :=
      behind?_eq_some_iff.2 (List.append_assoc ..)
    exact Option.bind_eq_some_iff.2 ⟨_, hmark, htakes rest'⟩

/-! ## Declarations of the document type -/

/-- Up to a bracket outside quotes, everything is taken off. -/
theorem exists_body_of_behindUnquoted? {quote : Option Char} {cs rest : List Char}
    (h : behindUnquoted? quote cs = some rest) :
    ∃ body, cs = body ++ ['>'] ++ rest ∧ Takes (behindUnquoted? quote) (body ++ ['>']) := by
  induction cs generalizing quote with
  | nil => cases h
  | cons c cs ih =>
    cases quote with
    | some q =>
      obtain ⟨body, rfl, htakes⟩ := ih h
      exact ⟨c :: body, rfl, htakes⟩
    | none =>
      rw [behindUnquoted?] at h
      split at h
      · rename_i hclose
        obtain rfl := Option.some.inj h
        subst hclose
        exact ⟨[], rfl, fun _ => rfl⟩
      · rename_i hclose
        obtain ⟨body, rfl, htakes⟩ := ih h
        refine ⟨c :: body, rfl, fun rest' => ?_⟩
        show behindUnquoted? none (c :: (body ++ ['>'] ++ rest')) = some rest'
        rw [behindUnquoted?, if_neg hclose]
        exact htakes rest'

/-- A declaration is taken off up to its own end, which is a bracket. -/
theorem exists_used_of_behindDeclaration? {cs rest : List Char}
    (h : behindDeclaration? cs = some rest) :
    ∃ used, cs = used ++ rest ∧ Takes behindDeclaration? used := by
  unfold behindDeclaration? at h
  split at h
  · rename_i inner hinner
    obtain ⟨body, rfl, htakes⟩ := exists_body_of_behindFirst? h
    have hcs : cs = ['?'] ++ (body ++ ['?', '>'] ++ rest) := behind?_eq_some_iff.1 hinner
    refine ⟨'?' :: (body ++ ['?', '>']), hcs, fun rest' => ?_⟩
    have hmark : behind? ['?'] ('?' :: (body ++ ['?', '>']) ++ rest') =
        some (body ++ ['?', '>'] ++ rest') := rfl
    rw [behindDeclaration?, hmark]
    exact htakes rest'
  rename_i hinstruction
  split at h
  · rename_i inner hinner
    obtain ⟨body, rfl, htakes⟩ := exists_body_of_behindFirst? h
    have hcs : cs = ['!', '-', '-'] ++ (body ++ ['-', '-', '>'] ++ rest) :=
      behind?_eq_some_iff.1 hinner
    refine ⟨'!' :: '-' :: '-' :: (body ++ ['-', '-', '>']), hcs, fun rest' => ?_⟩
    have hnone : behind? ['?'] ('!' :: '-' :: '-' :: (body ++ ['-', '-', '>']) ++ rest') = none :=
      rfl
    have hmark : behind? ['!', '-', '-'] ('!' :: '-' :: '-' :: (body ++ ['-', '-', '>']) ++ rest') =
        some (body ++ ['-', '-', '>'] ++ rest') := rfl
    rw [behindDeclaration?, hnone, hmark]
    exact htakes rest'
  -- the tests in front look no further than the bracket
  rename_i hcomment
  have hsame : ∀ body : List Char, cs = body ++ ['>'] ++ rest → ∀ rest',
      behindDeclaration? (body ++ ['>'] ++ rest') =
        if protectsBrackets cs then behindUnquoted? none (body ++ ['>'] ++ rest')
        else behindFirst? ['>'] (body ++ ['>'] ++ rest') := by
    rintro body rfl rest'
    have htest : ∀ mark : List Char, '>' ∉ mark →
        (behind? mark (body ++ ['>'] ++ rest')).isSome =
          (behind? mark (body ++ ['>'] ++ rest)).isSome := fun mark hmark =>
      isSome_behind?_congr (List.mem_append_right _ (List.mem_singleton_self _)) hmark _ _
    have hnone : behind? ['?'] (body ++ ['>'] ++ rest') = none := by
      rw [← Option.isNone_iff_eq_none, ← Option.not_isSome, htest _ (by decide), hinstruction]
      rfl
    have hnone' : behind? ['!', '-', '-'] (body ++ ['>'] ++ rest') = none := by
      rw [← Option.isNone_iff_eq_none, ← Option.not_isSome, htest _ (by decide), hcomment]
      rfl
    have hprotects : protectsBrackets (body ++ ['>'] ++ rest') =
        protectsBrackets (body ++ ['>'] ++ rest) := by
      have hentity := htest "!ENTITY".toList (by decide)
      have hattlist := htest "!ATTLIST".toList (by decide)
      have hnotation := htest "!NOTATION".toList (by decide)
      simp only [protectsBrackets, List.any_cons, List.any_nil, hentity, hattlist, hnotation]
    rw [behindDeclaration?, hnone, hnone', hprotects]
  split at h
  · rename_i hprotects
    obtain ⟨body, hcs, htakes⟩ := exists_body_of_behindUnquoted? h
    refine ⟨body ++ ['>'], hcs, fun rest' => ?_⟩
    rw [hsame body hcs, if_pos hprotects, htakes]
  · rename_i hprotects
    obtain ⟨body, hcs, htakes⟩ := exists_body_of_behindFirst? h
    refine ⟨body ++ ['>'], hcs, fun rest' => ?_⟩
    rw [hsame body hcs, if_neg hprotects, htakes]

/-- The internal subset is taken off up to the bracket that closes it. -/
theorem exists_used_of_behindSubset? {cs rest : List Char} (h : behindSubset? cs = some rest) :
    ∃ used, cs = used ++ rest ∧ Takes behindSubset? used := by
  fun_induction behindSubset? cs with
  | case1 | case3 => cases h
  | case2 cs =>
    obtain rfl := Option.some.inj h
    refine ⟨[']'], rfl, fun rest' => ?_⟩
    rw [List.singleton_append, behindSubset?, if_pos rfl]
  | case4 cs behind hbehind _ ih =>
    obtain ⟨used, rfl, htakes⟩ := exists_used_of_behindDeclaration? hbehind
    obtain ⟨used', rfl, htakes'⟩ := ih h
    refine ⟨'<' :: (used ++ used'), by simp, fun rest' => ?_⟩
    show behindSubset? ('<' :: (used ++ used' ++ rest')) = some rest'
    rw [behindSubset?_declaration, List.append_assoc, htakes, Option.bind_some, htakes']
  | case5 c cs hclose hopen ih =>
    obtain ⟨used, rfl, htakes⟩ := ih h
    refine ⟨c :: used, rfl, fun rest' => ?_⟩
    rw [List.cons_append, behindSubset?, if_neg hclose, if_neg hopen, htakes]

/-- A document type declaration is taken off up to a bracket. -/
theorem exists_used_of_behindDoctype? {quote : Option Char} {cs rest : List Char}
    (h : behindDoctype? quote cs = some rest) :
    ∃ used, cs = used ++ rest ∧ '>' ∈ used ∧ Takes (behindDoctype? quote) used := by
  induction cs generalizing quote with
  | nil => cases h
  | cons c cs ih =>
    cases quote with
    | some q =>
      obtain ⟨used, rfl, hused, htakes⟩ := ih h
      exact ⟨c :: used, rfl, List.mem_cons_of_mem _ hused, htakes⟩
    | none =>
      rw [behindDoctype?] at h
      split at h
      · rename_i hclose
        obtain rfl := Option.some.inj h
        subst hclose
        exact ⟨['>'], rfl, List.mem_singleton_self _, fun _ => rfl⟩
      rename_i hclose
      split at h
      · rename_i hopen
        subst hopen
        obtain ⟨inner, hinner, hend⟩ := Option.bind_eq_some_iff.1 h
        obtain ⟨used, rfl, htakes⟩ := exists_used_of_behindSubset? hinner
        obtain ⟨body, rfl, htakes'⟩ := exists_body_of_behindFirst? hend
        refine ⟨'[' :: (used ++ (body ++ ['>'])), by simp, by simp, fun rest' => ?_⟩
        show behindDoctype? none ('[' :: (used ++ (body ++ ['>']) ++ rest')) = some rest'
        rw [behindDoctype?, if_neg hclose, if_pos rfl, List.append_assoc, htakes, Option.bind_some,
          htakes']
      · rename_i hopen
        obtain ⟨used, rfl, hused, htakes⟩ := ih h
        refine ⟨c :: used, rfl, List.mem_cons_of_mem _ hused, fun rest' => ?_⟩
        rw [List.cons_append, behindDoctype?, if_neg hclose, if_neg hopen]
        exact htakes rest'

/-! ## Pieces -/

/-- The content of a tag is taken off with the bracket that closes the tag; it leaves no
quote open that was not open in front of it. -/
theorem exists_content_of_splitTag {quote : Option Char} {cs content rest : List Char}
    (h : splitTag quote cs = .ok (content, rest)) :
    cs = content ++ '>' :: rest ∧ ∀ rest', splitTag quote (content ++ rest') =
      (splitTag none rest').map fun p => (content ++ p.1, p.2) := by
  induction cs generalizing quote content with
  | nil => cases h
  | cons c cs ih =>
    have hstep : ∀ quote' : Option Char,
        (splitTag quote' cs).map (fun p => (c :: p.1, p.2)) = .ok (content, rest) →
        ∃ content', content = c :: content' ∧ cs = content' ++ '>' :: rest ∧
          ∀ rest', splitTag quote' (content' ++ rest') =
            (splitTag none rest').map fun p => (content' ++ p.1, p.2) := by
      intro quote' h
      cases hsplit : splitTag quote' cs with
      | error e => simp [hsplit, Except.map] at h
      | ok p =>
        obtain ⟨content', rest'⟩ := p
        obtain ⟨rfl, rfl⟩ : c :: content' = content ∧ rest' = rest := by
          simpa [hsplit, Except.map] using h
        exact ⟨content', rfl, ih hsplit⟩
    have hmap : ∀ (content' rest' : List Char),
        ((splitTag none rest').map fun p => (content' ++ p.1, p.2)).map (fun p => (c :: p.1, p.2)) =
          (splitTag none rest').map fun p => (c :: content' ++ p.1, p.2) := by
      intro content' rest'
      cases splitTag none rest' <;> rfl
    cases quote with
    | some q =>
      obtain ⟨content', rfl, rfl, hread⟩ := hstep _ h
      refine ⟨rfl, fun rest' => ?_⟩
      rw [List.cons_append, splitTag, ← hmap, ← hread]
    | none =>
      rw [splitTag] at h
      split at h
      · rename_i hclose
        obtain ⟨rfl, rfl⟩ := Prod.mk.inj (Except.ok.inj h)
        subst hclose
        refine ⟨rfl, fun rest' => ?_⟩
        cases hrest : splitTag none rest' <;> simp [hrest, Except.map]
      · rename_i hclose
        obtain ⟨content', rfl, rfl, hread⟩ := hstep _ h
        refine ⟨rfl, fun rest' => ?_⟩
        rw [List.cons_append, splitTag, if_neg hclose, ← hmap, ← hread]

theorem staysInTag_iff {cs : List Char} :
    StaysInTag cs ↔ splitTag none (cs ++ ['>']) = .ok (cs, []) :=
  ⟨fun h => splitTag_of_staysInTag h [], fun h => (exists_content_of_splitTag h).2⟩

instance : DecidablePred StaysInTag := fun _ =>
  decidable_of_iff _ staysInTag_iff.symm

/-- What a text begins with behind its blanks is settled by its first other character. -/
theorem head?_skipBlanks_congr {used : List Char} {c : Char} (hused : c ∈ used)
    (hc : isBlank c = false) (rest rest' : List Char) :
    (skipBlanks (used ++ rest)).head? = (skipBlanks (used ++ rest')).head? := by
  induction used with
  | nil => cases hused
  | cons d used ih =>
    unfold skipBlanks at ih ⊢
    rw [List.cons_append, List.cons_append, List.dropWhile_cons, List.dropWhile_cons]
    split
    · rename_i hblank
      rcases List.mem_cons.1 hused with rfl | hused
      · rw [hc] at hblank
        cases hblank
      · exact ih hused
    · rfl

theorem exists_used_of_readDoctype {cs rest : List Char} {piece : Piece}
    (h : readDoctype cs = .ok (piece, rest)) :
    ∃ used, cs = used ++ rest ∧ used ≠ [] ∧
      ∀ rest', readDoctype (used ++ rest') = .ok (piece, rest') := by
  unfold readDoctype at h
  split at h
  case isFalse => cases h
  rename_i hkeyword
  split at h
  case h_1 => cases h
  rename_i behind hbehind
  split at h
  case isTrue => cases h
  rename_i hnamed
  obtain ⟨rfl, rfl⟩ := Prod.mk.inj (Except.ok.inj h)
  obtain ⟨used, hdrop, hused, htakes⟩ := exists_used_of_behindDoctype? hbehind
  have hlength : (cs.take 7).length = 7 := by
    simpa using congrArg List.length hkeyword
  have hcs : cs = cs.take 7 ++ used ++ behind := by
    rw [List.append_assoc, ← hdrop, List.take_append_drop]
  refine ⟨cs.take 7 ++ used, hcs, by simp [List.ne_nil_of_mem hused], fun rest' => ?_⟩
  have htake : (cs.take 7 ++ used ++ rest').take 7 = cs.take 7 := by
    rw [List.append_assoc]
    exact List.take_left' hlength
  have hdrop' : (cs.take 7 ++ used ++ rest').drop 7 = used ++ rest' := by
    rw [List.append_assoc]
    exact List.drop_left' hlength
  have hhead := head?_skipBlanks_congr hused (by decide) rest' behind
  rw [← hdrop] at hhead
  rw [readDoctype, htake, if_pos hkeyword, hdrop', htakes rest', hhead]
  exact if_neg hnamed

theorem exists_used_of_orFault {fault : LexicalFault} {mark mark' cs rest : List Char}
    {piece : Piece}
    (h : orFault fault ((behind? mark cs).bind (behindFirst? mark')) = .ok (piece, rest)) :
    ∃ body, cs = mark ++ (body ++ mark') ++ rest ∧ ∀ rest',
      orFault fault ((behind? mark (mark ++ (body ++ mark') ++ rest')).bind (behindFirst? mark')) =
        .ok (piece, rest') := by
  have hfound := eq_of_orFault h
  rw [hfound] at h
  obtain ⟨rfl, -⟩ := Prod.mk.inj (Except.ok.inj h)
  obtain ⟨body, hcs, htakes⟩ := exists_used_of_bind hfound
  exact ⟨body, hcs, fun rest' => congrArg (orFault fault) (htakes rest')⟩

theorem exists_used_of_readBang {cs rest : List Char} {piece : Piece}
    (h : readBang cs = .ok (piece, rest)) :
    ∃ used, cs = used ++ rest ∧ ∀ rest', readBang (used ++ rest') = .ok (piece, rest') := by
  have hdoctype : ∀ {c : Char} {tail : List Char},
      (∀ tail, readBang (c :: tail) = readDoctype (c :: tail)) →
      readDoctype (c :: tail) = .ok (piece, rest) → ∃ used, c :: tail = used ++ rest ∧
        ∀ rest', readBang (used ++ rest') = .ok (piece, rest') := by
    intro c tail hbang h
    obtain ⟨used, hcs, hne, hread⟩ := exists_used_of_readDoctype h
    obtain ⟨d, used, rfl⟩ := List.exists_cons_of_ne_nil hne
    obtain ⟨rfl, -⟩ := List.cons.inj hcs
    exact ⟨c :: used, hcs, fun rest' => (hbang _).trans (hread rest')⟩
  unfold readBang at h
  split at h
  · obtain ⟨body, hcs, hread⟩ := exists_used_of_orFault h
    exact ⟨_, hcs, hread⟩
  · obtain ⟨body, hcs, hread⟩ := exists_used_of_orFault h
    exact ⟨_, hcs, hread⟩
  · exact hdoctype (fun _ => rfl) h
  · exact hdoctype (fun _ => rfl) h
  · cases h

theorem exists_used_of_readInstruction {cs rest : List Char} {piece : Piece}
    (h : readInstruction cs = .ok (piece, rest)) :
    ∃ used, cs = used ++ rest ∧ ∀ rest', readInstruction (used ++ rest') = .ok (piece, rest') := by
  unfold readInstruction at h
  split at h
  · cases h
  rename_i hhead
  have hfound := eq_of_orFault h
  rw [hfound] at h
  obtain ⟨rfl, -⟩ := Prod.mk.inj (Except.ok.inj h)
  obtain ⟨body, rfl, htakes⟩ := exists_body_of_behindFirst? hfound
  refine ⟨body ++ ['?', '>'], rfl, fun rest' => ?_⟩
  have hhead' : (body ++ ['?', '>'] ++ rest').head? ≠ some '>' := by
    cases body with
    | nil => simp
    | cons c body => simpa using hhead
  rw [readInstruction, if_neg hhead', htakes]
  rfl

theorem eq_aside_of_orFault {fault : LexicalFault} {found : Option (List Char)}
    {rest : List Char} {piece : Piece} (h : orFault fault found = .ok (piece, rest)) :
    piece = .aside := by
  rw [eq_of_orFault h] at h
  exact (Prod.mk.inj (Except.ok.inj h)).1.symm

theorem eq_aside_of_readDoctype {cs rest : List Char} {piece : Piece}
    (h : readDoctype cs = .ok (piece, rest)) : piece = .aside := by
  unfold readDoctype at h
  split at h
  · split at h
    · cases h
    · split at h
      · cases h
      · exact (Prod.mk.inj (Except.ok.inj h)).1.symm
  · cases h

/-- Markup that begins with these two signs is no tag. -/
theorem eq_aside_of_readBang {cs rest : List Char} {piece : Piece}
    (h : readBang cs = .ok (piece, rest)) : piece = .aside := by
  unfold readBang at h
  split at h
  · exact eq_aside_of_orFault h
  · exact eq_aside_of_orFault h
  · exact eq_aside_of_readDoctype h
  · exact eq_aside_of_readDoctype h
  · cases h

theorem eq_aside_of_readInstruction {cs rest : List Char} {piece : Piece}
    (h : readInstruction cs = .ok (piece, rest)) : piece = .aside := by
  unfold readInstruction at h
  split at h
  · cases h
  · exact eq_aside_of_orFault h

/-- A tag is what stays in it, followed by a bracket, unless it begins with the sign of
other markup. -/
theorem readPiece_eq_tag_iff {cs content rest : List Char} :
    readPiece cs = .ok (.tag content, rest) ↔
      cs = content ++ '>' :: rest ∧ StaysInTag content ∧
        content.head? ≠ some '!' ∧ content.head? ≠ some '?' := by
  constructor
  · intro h
    unfold readPiece at h
    split at h
    · cases eq_aside_of_readBang h
    · cases eq_aside_of_readInstruction h
    · rename_i hbang hquestion
      obtain ⟨⟨content', rest'⟩, hsplit, heq⟩ := map_eq_ok_iff.1 h
      obtain ⟨htag, rfl⟩ := Prod.mk.inj heq
      obtain rfl := Piece.tag.inj htag
      obtain ⟨rfl, hstays⟩ := exists_content_of_splitTag hsplit
      refine ⟨rfl, hstays, fun hhead => ?_, fun hhead => ?_⟩
      · obtain ⟨tail, rfl⟩ := List.head?_eq_some_iff.1 hhead
        exact hbang _ rfl
      · obtain ⟨tail, rfl⟩ := List.head?_eq_some_iff.1 hhead
        exact hquestion _ rfl
  · rintro ⟨rfl, hstays, hbang, hquestion⟩
    cases content with
    | nil => rfl
    | cons c content =>
      refine readPiece_of_staysInTag hstays rfl ?_ ?_ rest
      · rintro rfl
        exact hbang rfl
      · rintro rfl
        exact hquestion rfl

/-- A piece is taken off whatever follows it. -/
theorem exists_used_of_readPiece {cs rest : List Char} {piece : Piece}
    (h : readPiece cs = .ok (piece, rest)) :
    ∃ used, cs = used ++ rest ∧ ∀ rest', readPiece (used ++ rest') = .ok (piece, rest') := by
  cases piece with
  | tag content =>
    obtain ⟨rfl, htag⟩ := readPiece_eq_tag_iff.1 h
    exact ⟨content ++ ['>'], by simp, fun rest' =>
      readPiece_eq_tag_iff.2 ⟨List.append_assoc .., htag⟩⟩
  | aside =>
    unfold readPiece at h
    split at h
    · obtain ⟨used, rfl, hread⟩ := exists_used_of_readBang h
      exact ⟨'!' :: used, rfl, hread⟩
    · obtain ⟨used, rfl, hread⟩ := exists_used_of_readInstruction h
      exact ⟨'?' :: used, rfl, hread⟩
    · obtain ⟨_, -, heq⟩ := map_eq_ok_iff.1 h
      cases heq

/-- So is the text in front of a piece. -/
theorem exists_used_of_skipText {inReference : Bool} {cs markup : List Char}
    (h : skipText inReference cs = .ok (some markup)) :
    ∃ used, cs = used ++ '<' :: markup ∧
      ∀ rest', skipText inReference (used ++ rest') = skipText false rest' := by
  induction cs generalizing inReference with
  | nil => cases inReference <;> cases h
  | cons c cs ih =>
    rw [skipText] at h
    split at h
    · rename_i hopen
      split at h
      · cases h
      · rename_i hreference
        obtain rfl := Option.some.inj (Except.ok.inj h)
        subst hopen
        refine ⟨[], rfl, fun rest' => ?_⟩
        rw [Bool.eq_false_iff.2 hreference, List.nil_append]
    · rename_i hopen
      split at h
      · rename_i hbegin
        split at h
        · cases h
        · rename_i hreference
          obtain ⟨used, rfl, hskip⟩ := ih h
          refine ⟨c :: used, rfl, fun rest' => ?_⟩
          rw [List.cons_append, skipText, if_neg hopen, if_pos hbegin, if_neg hreference, hskip]
      · rename_i hbegin
        obtain ⟨used, rfl, hskip⟩ := ih h
        refine ⟨c :: used, rfl, fun rest' => ?_⟩
        rw [List.cons_append, skipText, if_neg hopen, if_neg hbegin, hskip]

end TypeProjection.Markup
