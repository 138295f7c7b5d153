import Handoff.Error.Refusal
import Handoff.Host.Basic

set_option autoImplicit false

/-! # Launching programs

`execute` replaces the process by a program whose file is known; `launch` finds the file first, as a
shell does, along the directories that `PATH` lists; `spawn` starts a program and waits for it.

There are two ways along `PATH`. `which` asks beforehand whether a name can be found and looks at
each candidate. `launch` does not look but tries: the first candidate that can be executed wins, and
if none can, it reports the first error that is more than absence, or else the last one. An empty
`PATH` lists nothing for `which` and the current directory for `launch`. -/

namespace Handoff

/-- The directories to search where `PATH` is not set. -/
def defaultSearchPath : String := "/bin:/usr/bin"

/-- The variable that lists the directories to search. -/
def searchPathName : String := "PATH"

/-- The directories that the variables list, in order. -/
def searchDirectories (env : Env) : List String :=
  Text.splitOn ':' ((env.get? searchPathName).getD defaultSearchPath)

/-- The path of a program in a directory. No second slash is written, and an empty directory is
    the current one. -/
def candidate (directory name : String) : String :=
  if directory = "" then name
  else if Text.endsWith directory '/' then directory ++ name
  else directory ++ "/" ++ name

/-- The paths under which a name is tried: a name with a slash is a path itself. -/
def candidates (env : Env) (name : String) : List String :=
  if Text.holds name '/' then [name] else (searchDirectories env).map (candidate · name)

/-- What is wrong with the words of a command. Whether they can be passed on at all is asked before
    whether the first one names a program. -/
def argumentsFault? : List String → Option InvalidArgument
  | [] => some .noArguments
  | program :: rest =>
    if (program :: rest).any hasNull then some .embeddedNull
    else if program = "" then some .emptyProgramName
    else none

/-- What is wrong with a variable. Whether name and value can be passed on at all is asked before
    whether the name is a legal one: an equals sign may only be its first character. -/
def variableFault? (name value : String) : Option InvalidArgument :=
  if hasNull name || hasNull value then some .embeddedNull
  else if name = "" || name.toList.tail.contains '=' then some .illegalVariableName
  else none

/-- What is wrong with a request to execute a program: the arguments are looked at first, then the
    variables in turn, then the path. -/
def imageFault? (image : Image) : Option InvalidArgument :=
  (argumentsFault? image.arguments).or <|
    (image.env.findSome? fun entry => variableFault? entry.1 entry.2).or <|
      if hasNull image.path then some .embeddedNull else none

namespace Host

/-- Replace the process by the image, whose file has to be a regular one that may be executed. -/
def execute (host : Host) (image : Image) : Except CallError Image :=
  match imageFault? image with
  | some reason => .error (.invalid reason)
  | none =>
    match host.tree.resolve host.cwd? image.path with
    | .error error => .error (.system (.ofWalk error image.path))
    | .ok place =>
      match host.tree.at? place with
      | some ⟨.file mode fault, _⟩ =>
        if !mode.execute then .error (.system (.ofWalk .denied image.path))
        else match fault with
          | some errno => .error (.system (.ofErrno errno (some image.path)))
          | none => .ok image
      | _ => .error (.system (.ofWalk .denied image.path))

/-- Whether there is something under a path that may be executed and is no directory. -/
def runnable (host : Host) (text : String) : Bool :=
  match host.node? text with
  | some node => host.mayExecute text && !node.isDir
  | none => false

/-- The path under which a program is found. -/
def which (host : Host) (name : String) : Option String :=
  -- An empty `PATH` lists no directory here, although splitting it gives an empty entry.
  if !Text.holds name '/' && host.env.get? searchPathName = some "" then none
  else (candidates host.env name).find? host.runnable

/-- Try each path in turn. `saved` is the first error so far that is more than absence, `last` the
    latest error. -/
def tryEach (host : Host) (arguments : List String) (env : Env) (saved : Option SystemError)
    (last : SystemError) : List String → Except CallError Image
  | [] => .error (.system (saved.getD last))
  | path :: rest =>
    match host.execute ⟨path, arguments, env⟩ with
    | .ok image => .ok image
    -- What cannot be passed on under one path cannot be passed on under another.
    | .error (.invalid reason) => .error (.invalid reason)
    | .error (.system error) =>
      tryEach host arguments env (saved.or (if error.isAbsence then none else some error)) error
        rest

/-- Replace the process by a program that is found along the `PATH` of the variables it gets. -/
def launch (host : Host) (program : String) (arguments : List String) (env : Env) :
    Except CallError Image :=
  host.tryEach arguments env none (.ofWalk .missing program) (candidates env program)

/-- What comes of a program that is started to be waited for. A failure to start it names the
    program. -/
def waitFor (host : Host) (command : List String) : Except Failure Int :=
  match host.childFate, command with
  | .exits status, _ => .ok status
  | .fails errno, program :: _ => .error (.system (.ofErrno errno (some program)))
  | .fails _, [] => .error .emptyCommand

/-- Start a program, in a directory other than the current one if that is given, and wait for
    it. -/
def spawn (host : Host) (command : List String) (directory : Option String) (env : Env) :
    Except Failure Int × Host :=
  (host.waitFor command, { host with spawned := host.spawned ++ [⟨command, directory, env⟩] })

end Host

end Handoff
