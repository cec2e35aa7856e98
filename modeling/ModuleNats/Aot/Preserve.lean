import Mathlib.Data.List.AList
import Mathlib.Data.List.Lex
import Mathlib.Data.List.Sort
import Mathlib.Data.String.Basic
import ModuleNats.Aot.Reader

set_option autoImplicit false

/-! # `preserve()`

The packaging script saves the metadata record of each module, runs the command that edits the
modules, and then compares the records. The command is any change of the files, with any end. -/

namespace ModuleNats.Aot

/-! ## Files -/

/-- The parts of a path, `str(path).split("/")`. -/
abbrev Path := List String

/-- `str(path)` -/
def Path.text (path : Path) : String := String.intercalate "/" path

inductive Kind where
  | symlink
  | file
  /-- a directory, a device or the like -/
  | other
deriving DecidableEq, Repr

/-- What is at a path. -/
structure Node where
  kind : Kind
  /-- what `read_bytes()` gives: the bytes, or the message of an `OSError` -/
  content : Except String Bytes

abbrev Files := AList fun _ : Path => Node

section Files

variable (files : Files) (path : Path)

def isSymlink : Bool := (files.lookup path).any (·.kind = .symlink)

/-- `is_file()`, for a path that is not a symlink -/
def isFile : Bool := (files.lookup path).any (·.kind = .file)

def readBytes : Except PyException Bytes :=
  match files.lookup path with
  | some node => node.content.mapError .osError
  | none => .error (.osError ("[Errno 2] No such file or directory: '" ++ path.text ++ "'"))

/-- `read_module_info(path)` -/
def readModule : Except PyException Bytes := do
  let data ← readBytes files path
  moduleInfo path.text data

/-- Whether `root.rglob("*.qmod")` gives a path if something is there. -/
def globs (root path : Path) : Bool :=
  root.isPrefixOf path && decide (root.length < path.length) &&
    ".qmod".toList.isSuffixOf (path.getLastD "").toList

/-- `sorted(root.rglob("*.qmod"))` -/
def modulePaths (root : Path) : List Path := (files.keys.filter (globs root)).insertionSort (· ≤ ·)

end Files

/-! ## The script -/

/-- How the command ends. -/
inductive CommandEnd where
  | exited (status : ℤ)
  /-- it could not be run, or the script was interrupted -/
  | raised (error : PyException)
deriving DecidableEq, Repr

/-- What `subprocess.run(command, check=True)` raises. -/
def CommandEnd.failure : CommandEnd → Option PyException
  | .exited status => if status = 0 then none else some (.calledProcessError status)
  | .raised error => some error

/-- What `preserve()` raises. -/
inductive Raised where
  | error (error : PyException)
  | group (message : String) (errors : List PyException)
deriving Repr

/-- The files, and how often the command has been run. -/
structure World where
  files : Files
  commandRuns : ℕ

/-- The first loop, for the paths that are left. -/
def saveRecords (files : Files) : List Path → Except PyException (List (Path × Bytes))
  | [] => pure []
  | path :: rest =>
      if isSymlink files path ∨ ¬isFile files path then saveRecords files rest
      else do
        let record ← readModule files path
        let saved ← saveRecords files rest
        return if record ≠ [] then (path, record) :: saved else saved

/-- The `try` block of the second loop. -/
def checkRecord (files : Files) (path : Path) (record : Bytes) : Except PyException Unit :=
  if isSymlink files path then
    throw (.valueError (path.text ++ ": ELF editing replaced the module with a symlink"))
  else do
    let current ← readModule files path
    if current = [] then
      throw (.valueError (path.text ++ ": ELF editing removed the AOT module metadata"))
    else if current ≠ record then
      throw (.valueError (path.text ++ ": ELF editing changed the AOT module metadata"))
    else return

/-- The errors that the second loop adds. -/
def checkErrors (files : Files) (saved : List (Path × Bytes)) : List PyException :=
  saved.filterMap fun (path, record) =>
    match checkRecord files path record with
    | .ok _ => none
    | .error error => some error

/-- The end of the script. -/
def raiseErrors : List PyException → Except Raised Unit
  | [] => .ok ()
  | [error] => .error (.error error)
  | errors => .error (.group "ELF processing and the AOT module metadata check failed" errors)

def preserve (root : Path) (command : Files → Files × CommandEnd) (world : World) :
    World × Except Raised Unit :=
  match saveRecords world.files (modulePaths world.files root) with
  | .error error => (world, .error (.error error))
  | .ok saved =>
      let (files, commandEnd) := command world.files
      ({ files, commandRuns := world.commandRuns + 1 },
        raiseErrors (commandEnd.failure.toList ++ checkErrors files saved))

end ModuleNats.Aot
