/-
  Storage/FileSystem.lean --- files and directories as a value.

  The operations that a program asks of the system are functions of this value:
  read a file, write a file, make a directory.  One that fails leaves everything
  as it was, but the making of several directories keeps those it has made.
-/
import TypeProjection.Storage.Operations

set_option autoImplicit false

namespace TypeProjection.Storage

/-- A place: the names of the directories around it from the root on, and its
own. -/
abbrev Place : Type :=
  List String

/-- What a file holds. -/
inductive Content where
  /-- a text -/
  | text (value : String)
  /-- bytes that are no text -/
  | binary (bytes : List UInt8)
  deriving DecidableEq, Repr, Inhabited

/-- What is at a place. -/
inductive Node where
  /-- a file -/
  | file (content : Content)
  /-- a directory -/
  | directory
  deriving DecidableEq, Repr, Inhabited

/-- Files and directories, and the directory that is worked in. -/
structure FileSystem where
  /-- What is at the places below the root. -/
  nodes : List (Place × Node)
  /-- The directory that paths lead from. -/
  workingDirectory : Place
  deriving DecidableEq, Repr, Inhabited

namespace FileSystem

/-- What is at a place, if something is.  The root is always a directory. -/
def node? (fs : FileSystem) (place : Place) : Option Node :=
  if place = [] then some .directory else fs.nodes.lookup place

/-- Puts something at a place, in the stead of what is there. -/
def put (fs : FileSystem) (place : Place) (node : Node) : FileSystem :=
  { fs with nodes := (place, node) :: fs.nodes.filter (·.1 ≠ place) }

theorem lookup_filter_ne {place place' : Place} (h : place' ≠ place)
    (nodes : List (Place × Node)) :
    (nodes.filter (·.1 ≠ place)).lookup place' = nodes.lookup place' := by
  induction nodes with
  | nil => rfl
  | cons e es ih =>
    obtain ⟨k, v⟩ := e
    by_cases hk : k = place
    · have hne : (place' == k) = false := by simpa [hk] using h
      rw [List.filter_cons_of_neg (by simpa using hk), ih, List.lookup_cons, hne]
    · rw [List.filter_cons_of_pos (by simpa using hk), List.lookup_cons, List.lookup_cons, ih]

theorem node?_put {fs : FileSystem} {place place' : Place} {node : Node} (h : place ≠ []) :
    (fs.put place node).node? place' = if place' = place then some node else fs.node? place' := by
  by_cases hp : place' = []
  · subst hp
    simp [node?, Ne.symm h]
  · by_cases he : place' = place
    · subst he
      simp [node?, put, h]
    · have hne : (place' == place) = false := by simpa using he
      simp only [node?, put, hp, he, if_false, List.lookup_cons, hne, lookup_filter_ne he]

/-! ## Following paths -/

/-- One step from a directory. -/
def follow (fs : FileSystem) (place : Place) (step : String) : Except Fault Place :=
  if step = "." then .ok place
  else if step = ".." then .ok place.dropLast
  else if Path.isTooLong step then .error .nameTooLong
  else
    match fs.node? (place ++ [step]) with
    | none => .error .notFound
    | some (.file _) => .error .notDirectory
    | some .directory => .ok (place ++ [step])

/-- All steps of a list from a directory. -/
def followAll (fs : FileSystem) : Place → List String → Except Fault Place
  | place, [] => .ok place
  | place, step :: steps =>
    match fs.follow place step with
    | .error fault => .error fault
    | .ok place' => followAll fs place' steps

/-- Where a path leads. -/
inductive Target where
  /-- to a directory that is there -/
  | directory
  /-- to a place in a directory that is there -/
  | entry (place : Place)
  deriving DecidableEq, Repr, Inhabited

/-- Where the last step of a path leads from a directory. -/
def targetIn (parent : Place) (last : String) : Except Fault Target :=
  if last = "." ∨ last = ".." then .ok .directory
  else if Path.isTooLong last then .error .nameTooLong
  else .ok (.entry (parent ++ [last]))

/-- Follows a path up to its last step. -/
def locate (fs : FileSystem) (path : Path) : Except Fault Target :=
  match path.fault? with
  | some fault => .error fault
  | none =>
    let start := if path.isAbsolute then [] else fs.workingDirectory
    match path.steps.getLast? with
    | none => if path.isAbsolute then .ok .directory else .error .notFound
    | some last =>
      match fs.followAll start path.steps.dropLast with
      | .error fault => .error fault
      | .ok parent => targetIn parent last

/-- Whether a path leads to a directory. -/
def isDirectory (fs : FileSystem) (path : Path) : Bool :=
  match fs.locate path with
  | .error _ => false
  | .ok .directory => true
  | .ok (.entry place) => fs.node? place = some .directory

/-! ## Files -/

/-- The text of the file that a path leads to. -/
def readText (fs : FileSystem) (path : Path) : Except Fault String :=
  match fs.locate path with
  | .error fault => .error fault
  | .ok .directory => .error .isDirectory
  | .ok (.entry place) =>
    match fs.node? place with
    | none => .error .notFound
    | some .directory => .error .isDirectory
    | some (.file content) =>
      if path.endsWithSlash then .error .notDirectory
      else
        match content with
        | .text value => .ok value
        | .binary _ => .error .notText

/-- Writes a text to the file that a path leads to, which is made if it is not
there. -/
def writeText (fs : FileSystem) (path : Path) (text : String) : Except Fault FileSystem :=
  match fs.locate path with
  | .error fault => .error fault
  | .ok .directory => .error .isDirectory
  | .ok (.entry place) =>
    match fs.node? place with
    | some .directory => .error .isDirectory
    | some (.file _) =>
      if path.endsWithSlash then .error .notDirectory
      else .ok (fs.put place (.file (.text text)))
    | none =>
      if path.endsWithSlash then .error .isDirectory
      else .ok (fs.put place (.file (.text text)))

/-! ## Directories -/

/-- Makes one directory in a directory that is there. -/
def makeDirectory (fs : FileSystem) (path : Path) : Except Fault FileSystem :=
  match fs.locate path with
  | .error fault => .error fault
  | .ok .directory => .error .alreadyThere
  | .ok (.entry place) =>
    match fs.node? place with
    | some _ => .error .alreadyThere
    | none => .ok (fs.put place .directory)

/-! ## The operations of a program -/

/-- What is there after an action, and what it answers. -/
def after {α : Type} (fs : FileSystem) (action : StateM FileSystem α) : FileSystem × α :=
  (action.run fs).swap

theorem after_bind {α β : Type} (fs : FileSystem) (action : StateM FileSystem α)
    (next : α → StateM FileSystem β) :
    fs.after (action >>= next) = (fs.after action).1.after (next (fs.after action).2) :=
  rfl

/-- Changes what is there, unless that fails. -/
def change (f : FileSystem → Except Fault FileSystem) : StateM FileSystem (Except Fault Unit) :=
  modifyGet fun fs =>
    match f fs with
    | .ok fs' => (.ok (), fs')
    | .error fault => (.error fault, fs)

/-- The operations on files as functions of what is there. -/
def operations : FileOperations (StateM FileSystem) where
  readText path := return (← get).readText path
  writeText path text := change (·.writeText path text)
  makeDirectory path := change (·.makeDirectory path)
  isDirectory path := return (← get).isDirectory path

theorem after_change (fs : FileSystem) (f : FileSystem → Except Fault FileSystem) :
    fs.after (change f) =
      match f fs with
      | .ok fs' => (fs', .ok ())
      | .error fault => (fs, .error fault) := by
  show (match f fs with
    | .ok fs' => ((.ok () : Except Fault Unit), fs')
    | .error fault => (.error fault, fs)).swap = _
  cases f fs <;> rfl

theorem after_writeText (fs : FileSystem) (path : Path) (text : String) :
    fs.after (operations.writeText path text) =
      match fs.writeText path text with
      | .ok fs' => (fs', .ok ())
      | .error fault => (fs, .error fault) :=
  after_change fs _

theorem after_makeDirectory (fs : FileSystem) (path : Path) :
    fs.after (operations.makeDirectory path) =
      match fs.makeDirectory path with
      | .ok fs' => (fs', .ok ())
      | .error fault => (fs, .error fault) :=
  after_change fs _

/-- Makes the first directory of a list, where each lies in the next one. -/
def makeFrom (fs : FileSystem) (paths : List Path) : FileSystem × Option Fault :=
  fs.after (operations.makeFrom paths)

theorem makeFrom_cons (fs : FileSystem) (path : Path) (ancestors : List Path) :
    fs.makeFrom (path :: ancestors) =
      if path.isEmpty then (fs, none)
      else
        match fs.makeDirectory path with
        | .ok fs' => (fs', none)
        | .error .notFound =>
          match fs.makeFrom ancestors with
          | (fs', some fault) => (fs', some fault)
          | (fs', none) =>
            match fs'.makeDirectory path with
            | .ok fs'' => (fs'', none)
            | .error fault => (fs', if fs'.isDirectory path then none else some fault)
        | .error fault => (fs, if fs.isDirectory path then none else some fault) := by
  rw [makeFrom, FileOperations.makeFrom]
  cases path.isEmpty with
  | true => rfl
  | false =>
    simp only [Bool.false_eq_true, if_false, after_bind, after_makeDirectory]
    cases fs.makeDirectory path with
    | ok fs' => rfl
    | error fault =>
      cases fault with
      | notFound =>
        -- the only fault after which anything else is made
        simp only [after_bind]
        rw [← makeFrom]
        rcases fs.makeFrom ancestors with ⟨fs', _ | fault⟩
        · simp only [after_bind, after_makeDirectory]
          cases fs'.makeDirectory path <;> rfl
        · rfl
      | _ => rfl

/-- Makes a directory and all those around it that are not there. -/
def makeDirectories (fs : FileSystem) (path : Path) : FileSystem × Option Fault :=
  fs.after (operations.makeDirectories path)

end FileSystem

end TypeProjection.Storage
