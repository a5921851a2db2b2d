/-
  Journal.lean --- what loading and generating report while they run.
-/
import TypeProjection.Projection.Kind

set_option autoImplicit false

namespace TypeProjection

/-- Something that happened. -/
inductive JournalEntry where
  /-- a type was registered -/
  | registered (name projectedName : String)
  /-- a struct without a field list was met -/
  | unionMet (name : String)
  /-- all types are registered -/
  | loaded (types worklist : Nat)
  /-- a struct is about to be emitted -/
  | emitting (name : String) (kind : ProjectionKind)
  /-- all structs are emitted -/
  | generated (classes values : Nat)
  deriving DecidableEq, Repr, Inhabited

/-- How much an entry matters. -/
inductive Severity where
  /-- of interest when something is looked for -/
  | debug
  /-- of interest in every run -/
  | info
  /-- something that may be a mistake -/
  | warn
  deriving DecidableEq, Repr, Inhabited

/-- What is told of one of the things that an entry is about. -/
inductive Figure where
  /-- a text -/
  | text (value : String)
  /-- a number -/
  | count (value : Nat)
  deriving DecidableEq, Repr, Inhabited

/-- A line of a log. -/
structure LogLine where
  /-- How much it matters. -/
  severity : Severity
  /-- What it tells, apart from its figures. -/
  message : String
  /-- The figures, each behind its name. -/
  figures : List (String × Figure)
  deriving DecidableEq, Repr, Inhabited

namespace JournalEntry

/-- How much the entry matters. -/
def severity : JournalEntry → Severity
  | .registered .. | .emitting .. => .debug
  | .loaded .. | .generated .. => .info
  | .unionMet .. => .warn

/-- What the entry tells, apart from its figures. -/
def message : JournalEntry → String
  | .registered .. => "registered type"
  | .unionMet .. => "struct has no field list, treating as union"
  | .loaded .. => "type registry loaded"
  | .emitting .. => "emitting struct"
  | .generated .. => "generated projections"

/-- The figures that the entry gives. -/
def figures : JournalEntry → List (String × Figure)
  | .registered name projectedName => [("name", .text name), ("projected", .text projectedName)]
  | .unionMet name => [("name", .text name)]
  | .loaded types worklist => [("types", .count types), ("worklist", .count worklist)]
  | .emitting name kind => [("name", .text name), ("projection", .text kind.label)]
  | .generated classes values => [("classes", .count classes), ("values", .count values)]

/-- The entry as it is logged. -/
def line (entry : JournalEntry) : LogLine :=
  ⟨entry.severity, entry.message, entry.figures⟩

end JournalEntry

/-- A result with all that was reported on the way to it. -/
structure Journaled (α : Type) where
  /-- The entries, in order. -/
  journal : List JournalEntry
  /-- The result. -/
  result : α
  deriving Repr, Inhabited

namespace Journaled

variable {α : Type}

/-- The result with more entries in front of its journal. -/
def after (entries : List JournalEntry) (x : Journaled α) : Journaled α :=
  { x with journal := entries ++ x.journal }

@[simp] theorem journal_after (entries : List JournalEntry) (x : Journaled α) :
    (x.after entries).journal = entries ++ x.journal := rfl

@[simp] theorem result_after (entries : List JournalEntry) (x : Journaled α) :
    (x.after entries).result = x.result := rfl

end Journaled

end TypeProjection
