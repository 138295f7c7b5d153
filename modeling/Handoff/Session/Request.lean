import Handoff.Script

set_option autoImplicit false

/-! # Requests and answers

A session is a sequence of requests to one process on one host. A `Request` is one of the
launcher's operations, whole or in part, a change of directory, or an edit of the host from
outside. An `Answer` holds all that the request lets one see. -/

namespace Handoff

/-- The runner that a request uses. -/
inductive RunnerChoice where
  /-- One of its own, which is forgotten afterwards. -/
  | own (runner : Runner)
  /-- The one that all requests of the session share. -/
  | shared
  deriving DecidableEq, Repr

/-- A call on a runner. -/
inductive RunnerCall where
  | run (command : List String) (directory : Option Path) (env : Option Env) (note : Option String)
  | replace (command : List String) (env : Option Env) (note : Option String)
  | format (command : List String)
  deriving DecidableEq, Repr

/-- A change of the host from outside the process. -/
inductive Edit where
  | put (place : Location) (kind : NodeKind)
  | remove (place : Location)
  | chmod (place : Location) (mode : Mode)
  | bind (name value : String)
  | unbind (name : String)

/-- What can be asked for in a session. -/
inductive Request where
  /-- Load the settings from the given variables, or from those of the process. -/
  | loadSettings (env : Option Env)
  /-- Give messages to a console. -/
  | say (console : Console) (messages : List (Severity × String))
  /-- Look at a refusal. -/
  | refuse (refusal : Refusal)
  /-- Select the manifest in the given variables, or in those of the process. -/
  | selectManifest (separateEnv : Option Env)
  /-- Find the project root of a launcher's file. -/
  | projectRoot (wrapper : Path)
  /-- Find the launcher's file. -/
  | locateWrapper (file : Option String)
  /-- Enter the project root of a launcher's file. -/
  | enterProjectRoot (wrapper : Path)
  /-- Find the delegate of a project. -/
  | resolveDelegate (root : Path) (settings : Settings)
  /-- Build the command for a delegate. -/
  | buildCommand (script : Path) (arguments : List String) (settings : Settings)
  /-- Hand over to a delegate. -/
  | invokeDelegate (command : DelegateCommand) (runner : RunnerChoice) (env : Option Env)
  /-- Write a command on one line. -/
  | formatCommand (command : List String)
  /-- Lay variables over those of the process. -/
  | mergeEnv (env : Option Env)
  /-- Call a runner several times. -/
  | callRunner (runner : RunnerChoice) (calls : List RunnerCall)
  /-- Launch the delegate. -/
  | launch (invocation : Invocation) (runner : RunnerChoice)
  /-- Load or run the launcher's script. -/
  | runScript (script : Script) (searchPath : List String)
  /-- Change the current directory. -/
  | chdir (text : String)
  /-- Edit the host. -/
  | edit (edit : Edit)

/-- What can be seen of the process: its directory, if there still is one, and its variables. -/
structure ProcessState where
  cwd : Option String
  env : Env
  deriving DecidableEq, Repr

/-- The state of the process on a host. -/
def Host.processState (host : Host) : ProcessState := ⟨host.cwd?.map Location.text, host.env⟩

/-- The value that a call on a runner gives. -/
inductive CallValue where
  /-- The status of a command that was run. -/
  | completed (command : List String) (status : Int)
  /-- The status of a command that was handed over to. -/
  | status (status : Int)
  /-- A command on one line. -/
  | line (text : String)
  deriving DecidableEq, Repr

/-- A call on a runner: its end, what it added to the runner's log, and what it started. -/
structure CallAnswer where
  ending : Ending CallValue
  logged : List LogEntry
  spawned : List Spawned
  deriving DecidableEq, Repr

/-- How an answer shows the log of the runner that the request used. -/
inductive LogView where
  /-- As it was right after the request. -/
  | copied (entries : List LogEntry)
  /-- As it is in the shared runner when the answers are read. A runner supplied by the caller is
      the caller's own, and its log is not copied for an answer. -/
  | live
  deriving DecidableEq, Repr

/-- What a request lets one see. -/
inductive Answer where
  | settings (settings : Settings)
  /-- The console, and for each message the text it leaves on the error stream. -/
  | said (console : Console) (texts : List String)
  | refusal (refusal : Refusal)
  | manifest (separateEnv : Option Env) (state : ProcessState)
  | path (ending : Ending Path)
  | entered (ending : Ending Path) (state : ProcessState)
  | command (command : DelegateCommand)
  | invoked (ending : Ending Int) (log : LogView) (spawned : List Spawned)
  | line (text : String)
  | merged (env : Env) (state : ProcessState)
  /-- The calls, the length of the runner's log, and whether the runner replaces the process, if it
      is one that acts on the host. -/
  | called (calls : List CallAnswer) (logSize : Nat) (replaces : Option Bool)
  | launched (ending : Ending Int) (log : LogView) (spawned : List Spawned)
      (separateEnv : Option Env) (state : ProcessState) (prints : List Print)
  | ran (ending : Ending (Option Int)) (searchPath : List String) (state : ProcessState)
      (prints : List Print)
  | moved (ending : Ending Unit) (cwd : Option String)
  | edited
  deriving DecidableEq, Repr

end Handoff
