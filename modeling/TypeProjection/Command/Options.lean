/-
  Command/Options.lean --- what a command line asks for.

  Options are taken from left to right, each with its value, before the next one
  is looked at; so a request for help counts unless something in front of it is
  wrong.
-/
import TypeProjection.Projection.Config

set_option autoImplicit false

namespace TypeProjection.Command

open Projection (Config defaultSubnamespace)

/-! ## Options -/

/-- The stem of the generated files unless something else is asked for. -/
def defaultStem : String :=
  "Structs"

/-- A run as it is asked for. -/
structure Options where
  /-- The path of the schema. -/
  schema : String
  /-- The path of the overrides. -/
  overrides : Option String
  /-- The directory of the generated files; nothing, if the texts are only
  shown. -/
  destination : Option String
  /-- The stem of the generated files. -/
  stem : String
  /-- What can be chosen about the generated texts. -/
  config : Config
  deriving DecidableEq, Repr

/-- An option that takes a value. -/
inductive ValueOption where
  /-- the path of the schema -/
  | schema
  /-- the path of the overrides -/
  | overrides
  /-- the directory of the generated files -/
  | outDir
  /-- the stem of the generated files -/
  | stem
  /-- what stands in front of derived type names -/
  | lead
  /-- the namespace segment of runtime classes -/
  | subnamespace
  deriving DecidableEq, Repr, Inhabited

/-- All options that take a value. -/
def ValueOption.all : List ValueOption :=
  [.schema, .overrides, .outDir, .stem, .lead, .subnamespace]

/-- An option as it is written. -/
def ValueOption.flag : ValueOption → String
  | .schema => "--schema"
  | .overrides => "--overrides"
  | .outDir => "--out-dir"
  | .stem => "--stem"
  | .lead => "--prefix"
  | .subnamespace => "--subnamespace"

/-- Whether the value of an option is a path, which cannot be empty. -/
def ValueOption.isPath : ValueOption → Bool
  | .schema | .overrides | .outDir => true
  | .stem | .lead | .subnamespace => false

/-- What a command line turns out to be. -/
inductive Request where
  /-- a request for help -/
  | help
  /-- a run -/
  | run (options : Options)
  /-- nothing that makes sense -/
  | misuse
  deriving DecidableEq, Repr

/-! ## Reading options -/

/-- The options that were given so far. -/
structure Draft where
  /-- The options with their values, the last one first. -/
  values : List (ValueOption × String)
  /-- Whether the texts are only to be shown. -/
  dryRun : Bool
  deriving DecidableEq, Repr

/-- The value given for an option. -/
def Draft.value? (draft : Draft) (option : ValueOption) : Option String :=
  draft.values.lookup option

/-- The draft with one more value.  No option can be given twice. -/
def Draft.set? (draft : Draft) (option : ValueOption) (value : String) : Option Draft :=
  if (draft.value? option).isSome ∨ (option.isPath ∧ value = "") then none
  else some { draft with values := (option, value) :: draft.values }

/-- The run that the options ask for.  It needs a schema, and a directory unless
the texts are only shown. -/
def Draft.finish (draft : Draft) : Request :=
  match draft.value? .schema, draft.value? .outDir with
  | none, _ => .misuse
  | some schema, outDir =>
    if outDir.isNone ∧ !draft.dryRun then .misuse
    else
      .run
        { schema
          overrides := draft.value? .overrides
          destination := if draft.dryRun then none else outDir
          stem := (draft.value? .stem).getD defaultStem
          config :=
            { style := ⟨(draft.value? .lead).getD defaultLead⟩
              subnamespace := (draft.value? .subnamespace).getD defaultSubnamespace } }

/-- Whether an argument can be the value of the option before it. -/
def canBeValue (argument : String) : Bool :=
  argument = "-" || argument.toList.head? != some '-'

/-- An argument in front of its first equals sign, and what stands behind that
sign. -/
def splitAssignment (argument : String) : String × Option String :=
  let name := argument.toList.takeWhile (· != '=')
  match argument.toList.dropWhile (· != '=') with
  | [] => (argument, none)
  | _ :: value => (String.ofList name, some (String.ofList value))

/-- The option that is written in a given way. -/
def optionOfFlag? (flag : String) : Option ValueOption :=
  ValueOption.all.find? fun option => option.flag == flag

/-- Whether an argument asks for help.  Behind the short form nothing is looked
at. -/
def asksForHelp (argument : String) : Bool :=
  argument = "--help" || argument.toList.take 2 == ['-', 'h']

/-- Reads the arguments behind those that led to a draft. -/
def readArguments (draft : Draft) : List String → Request
  | [] => draft.finish
  | argument :: rest =>
    if argument = "--" then if rest = [] then draft.finish else .misuse
    else if asksForHelp argument then .help
    else if argument = "--dry-run" then
      if draft.dryRun then .misuse else readArguments { draft with dryRun := true } rest
    else
      match splitAssignment argument with
      | (flag, assigned) =>
        match optionOfFlag? flag with
        | none => .misuse
        | some option =>
          match assigned, rest with
          | some value, rest =>
            match draft.set? option value with
            | some draft' => readArguments draft' rest
            | none => .misuse
          | none, value :: rest =>
            if canBeValue value then
              match draft.set? option value with
              | some draft' => readArguments draft' rest
              | none => .misuse
            else .misuse
          | none, [] => .misuse

/-- What a list of arguments asks for. -/
def Request.ofArguments (arguments : List String) : Request :=
  readArguments ⟨[], false⟩ arguments

end TypeProjection.Command
