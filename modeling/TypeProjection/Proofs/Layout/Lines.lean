/-
  Proofs/Layout/Lines.lean --- what strokes write, line by line.

  A sheet grows at its end by one line for every stroke that writes one, and the
  depth at which a line is written depends on the strokes before it alone.  A
  level list of strokes closes every indentation it opens, so it leaves the
  depth as it was, and what stands behind it is written as if it were not there.
-/
import TypeProjection.Layout.Sheet
import TypeProjection.Text.Split

set_option autoImplicit false

namespace TypeProjection.Layout

/-! ## The lines of a text -/

/-- The text of lines, each with its end. -/
def unlines (lines : List String) : String :=
  String.join (lines.map (· ++ "\n"))

/-- The lines of a text: what stands between its line ends, in front of the first
one and behind the last one. -/
def linesOf (text : String) : List String :=
  (piecesBetween '\n' text.toList).map String.ofList

@[simp] theorem unlines_nil : unlines [] = "" := by
  simp [unlines]

@[simp] theorem unlines_cons (line : String) (lines : List String) :
    unlines (line :: lines) = line ++ "\n" ++ unlines lines := by
  simp [unlines]

@[simp] theorem unlines_append (first second : List String) :
    unlines (first ++ second) = unlines first ++ unlines second := by
  simp [unlines]

theorem join_map_unlines {α : Type} (f : α → List String) (xs : List α) :
    String.join (xs.map fun x => unlines (f x)) = unlines (xs.flatMap f) := by
  induction xs with
  | nil => simp
  | cons x xs ih => simp [String.join_cons, ih]

theorem unlines_eq_empty_iff {lines : List String} : unlines lines = "" ↔ lines = [] := by
  cases lines with
  | nil => simp
  | cons line lines =>
    rw [← String.toList_inj]
    simp

/-- A text that does not end a line. -/
def OneLine (text : String) : Prop :=
  '\n' ∉ text.toList

@[simp] theorem oneLine_append {a b : String} : OneLine (a ++ b) ↔ OneLine a ∧ OneLine b := by
  simp [OneLine]

instance : DecidablePred OneLine := fun text =>
  inferInstanceAs (Decidable ('\n' ∉ text.toList))

/-- Lines that were written are read back; behind the last line end there is
nothing. -/
theorem linesOf_unlines {lines : List String} (h : ∀ line ∈ lines, OneLine line) :
    linesOf (unlines lines) = lines ++ [""] := by
  induction lines with
  | nil => rfl
  | cons line lines ih =>
    have hline : '\n' ∉ line.toList := h line List.mem_cons_self
    have hsplit : (unlines (line :: lines)).toList =
        line.toList ++ '\n' :: (unlines lines).toList := by
      simp
    unfold linesOf at ih ⊢
    rw [hsplit, piecesBetween_append, piecesBetween_of_not_mem hline, List.map_append,
      ih fun l hl => h l (List.mem_cons_of_mem _ hl)]
    simp

/-! ## Strokes -/

/-- The depth after strokes that begin at a given depth. -/
def depthAfter (depth : Nat) : List Stroke → Nat
  | [] => depth
  | .indent :: strokes => depthAfter (depth + 1) strokes
  | .unindent :: strokes => depthAfter (depth - 1) strokes
  | .line _ :: strokes | .blank :: strokes => depthAfter depth strokes

/-- A line as it stands at a given depth, without its end. -/
def lineAt (depth : Nat) (text : String) : String :=
  if text = "" then "" else margin depth ++ text

/-- The lines that strokes write when they begin at a given depth. -/
def linesAt (depth : Nat) : List Stroke → List String
  | [] => []
  | .line text :: strokes => lineAt depth text :: linesAt depth strokes
  | .blank :: strokes => "" :: linesAt depth strokes
  | .indent :: strokes => linesAt (depth + 1) strokes
  | .unindent :: strokes => linesAt (depth - 1) strokes

theorem margin_one : margin 1 = "    " := rfl

theorem lineAt_of_ne {depth : Nat} {text : String} (h : text ≠ "") :
    lineAt depth text = margin depth ++ text :=
  if_neg h

/-- At the outermost depth there is no margin. -/
@[simp] theorem lineAt_zero (text : String) : lineAt 0 text = text := by
  unfold lineAt
  split
  · symm
    assumption
  · exact String.empty_append

theorem lineAt_append_end (depth : Nat) (text : String) :
    lineAt depth text ++ "\n" = indentedLine depth text := by
  unfold lineAt indentedLine
  split <;> simp

/-- A sheet after strokes: their lines stand behind what was there. -/
theorem write_eq (sheet : Sheet) (strokes : List Stroke) :
    sheet.write strokes =
      ⟨sheet.text ++ unlines (linesAt sheet.depth strokes), depthAfter sheet.depth strokes⟩ := by
  induction strokes generalizing sheet with
  | nil => simp [linesAt, depthAfter]
  | cons stroke strokes ih =>
    rw [Sheet.write_cons, ih]
    cases stroke with
    | line text =>
      simp only [Sheet.step, linesAt, depthAfter, unlines_cons, lineAt_append_end,
        String.append_assoc]
    | blank => simp [Sheet.step, linesAt, depthAfter, String.append_assoc]
    | indent => rfl
    | unindent => rfl

theorem depthAfter_append (depth : Nat) (first second : List Stroke) :
    depthAfter depth (first ++ second) = depthAfter (depthAfter depth first) second := by
  induction first generalizing depth with
  | nil => rfl
  | cons stroke first ih => cases stroke <;> simp only [List.cons_append, depthAfter, ih]

theorem linesAt_append (depth : Nat) (first second : List Stroke) :
    linesAt depth (first ++ second) =
      linesAt depth first ++ linesAt (depthAfter depth first) second := by
  induction first generalizing depth with
  | nil => rfl
  | cons stroke first ih =>
    cases stroke <;> simp only [List.cons_append, linesAt, depthAfter, ih]

/-! ## Level strokes -/

/-- Strokes that close every indentation they open and open every one they
close. -/
inductive Level : List Stroke → Prop where
  /-- nothing is done -/
  | nil : Level []
  /-- a line is written -/
  | line (text : String) : Level [.line text]
  /-- an empty line is written -/
  | blank : Level [.blank]
  /-- level strokes are carried out one level deeper -/
  | nested {strokes : List Stroke} (h : Level strokes) : Level (nested strokes)
  /-- level strokes follow level strokes -/
  | append {first second : List Stroke} (h : Level first) (h' : Level second) :
    Level (first ++ second)

namespace Level

theorem cons {stroke : Stroke} {strokes : List Stroke} (h : Level [stroke])
    (h' : Level strokes) : Level (stroke :: strokes) :=
  h.append h'

theorem braced {strokes : List Stroke} (h : Level strokes) (closing : String) :
    Level (braced strokes closing) :=
  (cons (.line _) h.nested).append (.line closing)

theorem flatMap {α : Type} {f : α → List Stroke} {xs : List α} (h : ∀ x ∈ xs, Level (f x)) :
    Level (xs.flatMap f) := by
  induction xs with
  | nil => exact .nil
  | cons x xs ih =>
    rw [List.flatMap_cons]
    exact (h x List.mem_cons_self).append (ih fun y hy => h y (List.mem_cons_of_mem _ hy))

theorem map {α : Type} {f : α → Stroke} {xs : List α} (h : ∀ x ∈ xs, Level [f x]) :
    Level (xs.map f) := by
  rw [List.map_eq_flatMap]
  exact flatMap h

theorem intercalate {separator : List Stroke} {blocks : List (List Stroke)}
    (hs : Level separator) (h : ∀ block ∈ blocks, Level block) :
    Level (List.intercalate separator blocks) := by
  induction blocks with
  | nil => exact .nil
  | cons block blocks ih =>
    have hblock : Level block := h block List.mem_cons_self
    have hblocks : ∀ b ∈ blocks, Level b := fun b hb => h b (List.mem_cons_of_mem _ hb)
    cases blocks with
    | nil => simpa using hblock
    | cons next blocks =>
      rw [List.intercalate_cons_cons]
      exact (hblock.append hs).append (ih hblocks)

end Level

/-- Level strokes leave the depth as it was, at whatever depth they begin. -/
theorem depthAfter_of_level {strokes : List Stroke} (h : Level strokes) (depth : Nat) :
    depthAfter depth strokes = depth := by
  induction h generalizing depth with
  | nil | line | blank => rfl
  | nested _ ih =>
    simp only [nested, List.cons_append, depthAfter, depthAfter_append, ih, Nat.add_sub_cancel]
  | append _ _ ih ih' => rw [depthAfter_append, ih, ih']

theorem linesAt_append_of_level {first : List Stroke} (h : Level first) (depth : Nat)
    (second : List Stroke) :
    linesAt depth (first ++ second) = linesAt depth first ++ linesAt depth second := by
  rw [linesAt_append, depthAfter_of_level h]

theorem linesAt_nested {strokes : List Stroke} (h : Level strokes) (depth : Nat) :
    linesAt depth (nested strokes) = linesAt (depth + 1) strokes := by
  simp only [nested, List.cons_append, linesAt]
  rw [linesAt_append_of_level h]
  simp [linesAt]

theorem linesAt_braced {strokes : List Stroke} (h : Level strokes) (depth : Nat)
    (closing : String) :
    linesAt depth (braced strokes closing) =
      lineAt depth "\x7b" :: linesAt (depth + 1) strokes ++ [lineAt depth closing] := by
  unfold braced
  rw [List.cons_append, linesAt, linesAt_append_of_level h.nested, linesAt_nested h]
  rfl

theorem linesAt_flatMap_of_level {α : Type} {f : α → List Stroke} {xs : List α}
    (h : ∀ x ∈ xs, Level (f x)) (depth : Nat) :
    linesAt depth (xs.flatMap f) = xs.flatMap fun x => linesAt depth (f x) := by
  induction xs with
  | nil => rfl
  | cons x xs ih =>
    rw [List.flatMap_cons, linesAt_append_of_level (h x List.mem_cons_self),
      ih fun y hy => h y (List.mem_cons_of_mem _ hy), List.flatMap_cons]

/-- What is read from the lines of blocks with empty lines between them is what
is read from the blocks. -/
theorem filterMap_linesAt_intercalate {α : Type} {read? : String → Option α}
    {blocks : List (List Stroke)} (hblank : read? "" = none) (h : ∀ block ∈ blocks, Level block)
    (depth : Nat) :
    (linesAt depth (List.intercalate [.blank] blocks)).filterMap read? =
      blocks.flatMap fun block => (linesAt depth block).filterMap read? := by
  induction blocks with
  | nil => rfl
  | cons block blocks ih =>
    have hblock : Level block := h block List.mem_cons_self
    have hblocks : ∀ b ∈ blocks, Level b := fun b hb => h b (List.mem_cons_of_mem _ hb)
    cases blocks with
    | nil => simp
    | cons next blocks =>
      have hsep : linesAt depth [.blank] = [""] := rfl
      rw [List.intercalate_cons_cons, linesAt_append_of_level (hblock.append .blank),
        linesAt_append_of_level hblock, List.filterMap_append, List.filterMap_append, hsep,
        List.filterMap_cons_none hblank, ih hblocks, List.flatMap_cons]
      simp

/-! ## Indented lines -/

/-- An empty line, or one that begins with the margin of a depth. -/
def Indented (depth : Nat) (line : String) : Prop :=
  line = "" ∨ (margin depth).toList <+: line.toList

theorem Indented.mono {depth depth' : Nat} {line : String} (h : Indented depth line)
    (hle : depth' ≤ depth) : Indented depth' line := by
  refine h.imp_right fun hbegin => List.IsPrefix.trans ?_ hbegin
  refine ⟨List.replicate (4 * (depth - depth')) ' ', ?_⟩
  simp only [margin, String.toList_ofList, List.replicate_append_replicate, ← Nat.mul_add,
    Nat.add_sub_cancel' hle]

/-- An indented line begins with a space, if with anything. -/
theorem Indented.head?_ne {line : String} (h : Indented 1 line) {c : Char} (hc : c ≠ ' ') :
    line.toList.head? ≠ some c := by
  rcases h with rfl | ⟨rest, hrest⟩
  · simp
  · rw [← hrest, margin_one]
    simpa using Ne.symm hc

/-- What level strokes write is indented by the depth at which they begin. -/
theorem indented_of_level {strokes : List Stroke} (h : Level strokes) (depth : Nat) :
    ∀ line ∈ linesAt depth strokes, Indented depth line := by
  induction h generalizing depth with
  | nil => simp [linesAt]
  | line text =>
    simp only [linesAt, lineAt, List.mem_singleton, forall_eq]
    split
    · exact .inl rfl
    · exact .inr ⟨text.toList, String.toList_append.symm⟩
  | blank => simp [linesAt, Indented]
  | nested h ih =>
    rw [linesAt_nested h]
    intro line hline
    exact (ih (depth + 1) line hline).mono (Nat.le_succ depth)
  | append h h' ih ih' =>
    rw [linesAt_append_of_level h]
    intro line hline
    rcases List.mem_append.1 hline with hline | hline
    · exact ih depth line hline
    · exact ih' depth line hline

/-! ## Lines without line ends -/

/-- A stroke whose text does not end a line. -/
def Stroke.OneLine : Stroke → Prop
  | .line text => Layout.OneLine text
  | .blank | .indent | .unindent => True

/-- Strokes whose texts do not end lines. -/
def OneLines (strokes : List Stroke) : Prop :=
  ∀ stroke ∈ strokes, stroke.OneLine

@[simp] theorem Stroke.oneLine_line {text : String} :
    (Stroke.line text).OneLine ↔ Layout.OneLine text := Iff.rfl

@[simp] theorem Stroke.oneLine_blank : Stroke.blank.OneLine := trivial

@[simp] theorem oneLines_nil : OneLines [] := by
  simp [OneLines]

@[simp] theorem oneLines_cons {stroke : Stroke} {strokes : List Stroke} :
    OneLines (stroke :: strokes) ↔ stroke.OneLine ∧ OneLines strokes :=
  List.forall_mem_cons

@[simp] theorem oneLines_append {first second : List Stroke} :
    OneLines (first ++ second) ↔ OneLines first ∧ OneLines second :=
  List.forall_mem_append

@[simp] theorem oneLines_nested {strokes : List Stroke} :
    OneLines (nested strokes) ↔ OneLines strokes := by
  simp [nested, Stroke.OneLine]

@[simp] theorem oneLines_braced {strokes : List Stroke} {closing : String} :
    OneLines (braced strokes closing) ↔ OneLines strokes ∧ OneLine closing := by
  have hopen : OneLine "\x7b" := by decide
  simp [braced, hopen]

theorem oneLines_intercalate {separator : List Stroke} {blocks : List (List Stroke)}
    (hs : OneLines separator) (h : ∀ block ∈ blocks, OneLines block) :
    OneLines (List.intercalate separator blocks) := by
  induction blocks with
  | nil => exact oneLines_nil
  | cons block blocks ih =>
    obtain ⟨hblock, hblocks⟩ := List.forall_mem_cons.1 h
    cases blocks with
    | nil => simpa using hblock
    | cons next blocks =>
      rw [List.intercalate_cons_cons]
      exact oneLines_append.2 ⟨oneLines_append.2 ⟨hblock, hs⟩, ih hblocks⟩

theorem oneLine_of_mem_linesAt {strokes : List Stroke} (h : OneLines strokes) (depth : Nat) :
    ∀ line ∈ linesAt depth strokes, OneLine line := by
  have hmargin : ∀ d, OneLine (margin d) := by
    intro d
    simp [OneLine, margin, List.mem_replicate]
  have hempty : OneLine "" := by decide
  induction strokes generalizing depth with
  | nil => simp [linesAt]
  | cons stroke strokes ih =>
    obtain ⟨hstroke, hstrokes⟩ := oneLines_cons.1 h
    cases stroke with
    | line text =>
      refine List.forall_mem_cons.2 ⟨?_, ih hstrokes depth⟩
      unfold lineAt
      split
      · exact hempty
      · exact oneLine_append.2 ⟨hmargin depth, hstroke⟩
    | blank => exact List.forall_mem_cons.2 ⟨hempty, ih hstrokes depth⟩
    | indent => exact ih hstrokes (depth + 1)
    | unindent => exact ih hstrokes (depth - 1)

end TypeProjection.Layout
