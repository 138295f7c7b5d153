import Handoff.Error.System
import Handoff.Path

set_option autoImplicit false

/-! # The host

The part of a machine that a launcher deals with: the file tree, the current directory, the
process environment, how the process was started, and the programs that it starts and waits for.

Here are the requests that only look (`lookup`, `probe`, `mayRead`, `mayExecute`), and the one that
changes the current directory (`chdir`). -/

namespace Handoff

/-- The variables of a process. -/
abbrev Env := Table String

/-- A process image: the file that was loaded, its arguments and its variables. -/
structure Image where
  path : String
  arguments : List String
  env : Env
  deriving DecidableEq, Repr

/-- A program started to be waited for. -/
structure Spawned where
  command : List String
  directory : Option String
  env : Env
  deriving DecidableEq, Repr

/-- What becomes of a program that is started to be waited for. -/
inductive ChildFate where
  /-- It ends with this status. -/
  | exits (status : Int)
  /-- Starting it fails with this error number. -/
  | fails (errno : Int)
  deriving DecidableEq, Repr

/-- A machine as seen from one process on it. -/
structure Host where
  /-- All files. -/
  tree : Node := .emptyDir
  /-- The current directory; none if it was deleted before the process started. -/
  cwd : Option Location := some []
  /-- The variables of the process. -/
  env : Env := []
  /-- The file from which the process was started. -/
  startedFrom : Option String := none
  /-- The words with which the process was started, its own name first. -/
  commandLine : List String := ["prog"]
  /-- The error number with which every change of directory fails. -/
  chdirFault : Option Int := none
  /-- What becomes of programs that are started to be waited for. -/
  childFate : ChildFate := .exits 0
  /-- The programs started so far. -/
  spawned : List Spawned := []

/-- Why a file could not be looked at. -/
inductive LookupError where
  /-- The path cannot be passed to the system. -/
  | embeddedNull
  /-- The walk along the path failed. -/
  | walk (error : WalkError)
  deriving DecidableEq, Repr

/-- Whether a text holds the character that ends texts. -/
def hasNull (text : String) : Bool := Text.holds text '\x00'

namespace Host

/-- The current directory, if it still is in the tree. -/
def cwd? (host : Host) : Option Location :=
  host.cwd.filter fun place => (host.tree.at? place).isSome

/-- The path text of the current directory. -/
def cwdText (host : Host) : Except SystemError String :=
  match host.cwd? with
  | some place => .ok (Location.text place)
  | none => .error (.ofErrno WalkError.missing.errno none)

/-- The absolute path of a file, with `.` and `..` taken away lexically. Only a relative path needs
    the current directory. -/
def absolute (host : Host) (text : String) : Except SystemError Path :=
  let path := Path.ofText text
  if path.isAbsolute then .ok path.collapse
  else match host.cwd? with
    | some place => .ok ((Path.mk .root place).join path).collapse
    | none => .error (.ofErrno WalkError.missing.errno none)

/-- The place that a path names. -/
def lookup (host : Host) (text : String) : Except LookupError Location :=
  if hasNull text then .error .embeddedNull
  else (host.tree.resolve host.cwd? text).mapError .walk

/-- The node that a path names; none if it names nothing. It is an error if that cannot be found
    out. -/
def probe (host : Host) (text : String) : Except SystemError (Option Node) :=
  match host.lookup text with
  | .ok place => .ok (host.tree.at? place)
  | .error .embeddedNull => .ok none
  | .error (.walk error) => if error.isAbsence then .ok none else .error (.ofWalk error text)

/-- The node that a path names, if it can be looked at. -/
def node? (host : Host) (text : String) : Option Node :=
  match host.lookup text with
  | .ok place => host.tree.at? place
  | .error _ => none

/-- Whether the file that a path names has a permission. -/
def permits (host : Host) (text : String) (permission : Mode → Bool) : Bool :=
  ((host.node? text).bind Node.mode?).any permission

/-- Whether the file that a path names may be read. -/
def mayRead (host : Host) (text : String) : Bool := host.permits text Mode.read

/-- Whether the file that a path names may be executed, or passed through if it is a directory. -/
def mayExecute (host : Host) (text : String) : Bool := host.permits text Mode.execute

/-- Change the current directory to the place that a path names. -/
def chdir (host : Host) (text : String) : Except SystemError Host :=
  match host.chdirFault with
  | some errno => .error (.ofErrno errno (some text))
  | none =>
    match host.tree.resolve host.cwd? text with
    | .error error => .error (.ofWalk error text)
    | .ok place =>
      match host.tree.at? place with
      | some ⟨.dir mode, _⟩ =>
        if mode.execute then .ok { host with cwd := some place }
        else .error (.ofWalk .denied text)
      | _ => .error (.ofWalk .notDirectory text)

end Host

end Handoff
