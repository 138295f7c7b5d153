import Handoff.Ending
import Handoff.Host.Launch

set_option autoImplicit false

/-! # Runners

A runner carries out commands: `run` waits for the command and gives its status, `replace` hands the
process over to it. Some runners act on the host, others only write down what they are asked to do.
A call may change the host and the runner, so both come back with the end of the call. -/

namespace Handoff

/-- A command that was written down instead of being carried out. -/
structure Record where
  command : List String
  directory : Option String
  env : Env
  note : Option String
  /-- Whether the process was to be handed over. -/
  replaced : Bool
  deriving DecidableEq, Repr

/-- A hand-over that a runner supplied by the caller was asked for. -/
structure Handover where
  command : List String
  env : Option Env
  note : Option String
  deriving DecidableEq, Repr

/-- What a runner supplied by the caller does with every hand-over. -/
inductive Reply where
  | status (status : Int)
  | raises (failure : Failure)
  deriving DecidableEq, Repr

/-- A way to carry out commands. -/
inductive Runner where
  /-- Replaces the process. -/
  | exec
  /-- Starts the command and waits for it, also where the process is to be handed over. -/
  | spawn
  /-- Writes commands down. -/
  | recording (records : List Record)
  /-- Cannot carry out commands. -/
  | unimplemented
  /-- Supplied by the caller: writes hand-overs down and replies to each in the same way. -/
  | scripted (reply : Reply) (calls : List Handover)
  deriving DecidableEq, Repr

/-- An entry in the log of a runner. -/
inductive LogEntry where
  | record (record : Record)
  | handover (handover : Handover)
  deriving DecidableEq, Repr

/-- The end of a call on a runner, and what it leaves behind. -/
structure Outcome (α : Type) where
  ending : Ending α
  host : Host
  runner : Runner

namespace Runner

/-- What the runner has written down so far. -/
def log : Runner → List LogEntry
  | .recording records => records.map .record
  | .scripted _ calls => calls.map .handover
  | .exec | .spawn | .unimplemented => []

/-- The variables of the process with those of a command laid over them. -/
def mergedEnv (host : Host) (env : Option Env) : Env := host.env.overlay (env.getD [])

/-- Carry out a command, in a directory if one is given, and give its status. -/
def run (runner : Runner) (host : Host) (command : List String) (directory : Option Path)
    (env : Option Env) (note : Option String) : Outcome Int :=
  let place := directory.map Path.text
  match runner with
  | .exec | .spawn =>
    let (result, after) := host.spawn command place (mergedEnv host env)
    ⟨.ofExcept result, after, runner⟩
  | .recording records =>
    ⟨.returned 0, host, .recording (records ++ [⟨command, place, env.getD [], note, false⟩])⟩
  | .unimplemented | .scripted _ _ => ⟨.failed .notImplemented, host, runner⟩

/-- Replace the process by a command; its first word is the program to be found. -/
def replaceProcess (host : Host) (command : List String) (env : Option Env) : Ending Int :=
  match command with
  | [] => .failed .emptyCommand
  | program :: _ =>
    match host.launch program command (mergedEnv host env) with
    | .ok image => .replaced image
    | .error error => .failed error.toFailure

/-- Hand the process over to a command. Where this comes back, it gives the command's status. -/
def replace (runner : Runner) (host : Host) (command : List String) (env : Option Env)
    (note : Option String) : Outcome Int :=
  match runner with
  | .exec => ⟨replaceProcess host command env, host, runner⟩
  | .spawn => runner.run host command none env note
  | .recording records =>
    match host.cwdText with
    | .ok place =>
      ⟨.returned 0, host,
        .recording (records ++ [⟨command, some place, env.getD [], note, true⟩])⟩
    | .error error => ⟨.failed (.system error), host, runner⟩
  | .unimplemented => ⟨.failed .notImplemented, host, runner⟩
  | .scripted reply calls =>
    let after := .scripted reply (calls ++ [⟨command, env, note⟩])
    match reply with
    | .status status => ⟨.returned status, host, after⟩
    | .raises failure => ⟨.failed failure, host, after⟩

end Runner

end Handoff
