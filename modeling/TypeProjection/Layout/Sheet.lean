/-
  Layout/Sheet.lean --- writing indented lines.

  A sheet is a text that grows at its end, with a depth of indentation.  What is
  done to a sheet is itself a value, a stroke, so that a block of text can be
  built first and written anywhere, at any depth.
-/

set_option autoImplicit false

namespace TypeProjection.Layout

/-- One thing that is done to a sheet. -/
inductive Stroke where
  /-- write a line; an empty one is not indented -/
  | line (text : String)
  /-- write an empty line -/
  | blank
  /-- go one level deeper -/
  | indent
  /-- go one level back, or stay at the outermost level -/
  | unindent
  deriving DecidableEq, Repr, Inhabited

/-- A text under construction and its depth of indentation. -/
structure Sheet where
  /-- What is written so far. -/
  text : String
  /-- How many levels the next line is indented by. -/
  depth : Nat
  deriving DecidableEq, Repr, Inhabited

/-- What stands in front of a line at a given depth: four spaces for every
level. -/
def margin (depth : Nat) : String :=
  String.ofList (List.replicate (4 * depth) ' ')

/-- A line as it is written at a given depth, with its end. -/
def indentedLine (depth : Nat) (text : String) : String :=
  if text = "" then "\n" else margin depth ++ text ++ "\n"

namespace Sheet

/-- Nothing is written. -/
def empty : Sheet :=
  ⟨"", 0⟩

/-- Whether nothing is written. -/
def isEmpty (sheet : Sheet) : Bool :=
  sheet.text.isEmpty

/-- The sheet after one stroke. -/
def step (sheet : Sheet) : Stroke → Sheet
  | .line text => { sheet with text := sheet.text ++ indentedLine sheet.depth text }
  | .blank => { sheet with text := sheet.text ++ "\n" }
  | .indent => { sheet with depth := sheet.depth + 1 }
  | .unindent => { sheet with depth := sheet.depth - 1 }

/-- The sheet after a list of strokes. -/
def write (sheet : Sheet) (strokes : List Stroke) : Sheet :=
  strokes.foldl step sheet

@[simp] theorem write_nil (sheet : Sheet) : sheet.write [] = sheet := rfl

@[simp] theorem write_cons (sheet : Sheet) (stroke : Stroke) (strokes : List Stroke) :
    sheet.write (stroke :: strokes) = (sheet.step stroke).write strokes := rfl

@[simp] theorem write_append (sheet : Sheet) (first second : List Stroke) :
    sheet.write (first ++ second) = (sheet.write first).write second := by
  simp [write]

end Sheet

/-- Strokes one level deeper than what is around them. -/
def nested (strokes : List Stroke) : List Stroke :=
  .indent :: strokes ++ [.unindent]

/-- A block in braces; `closing` is the line that closes it. -/
def braced (strokes : List Stroke) (closing : String) : List Stroke :=
  .line "\x7b" :: nested strokes ++ [.line closing]

end TypeProjection.Layout
