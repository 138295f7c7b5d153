import Handoff.Error.Reason
import Handoff.FileTree.Walk
import Handoff.Text.Quoted

set_option autoImplicit false

/-! # Errors of the system

A `SystemError` is a failed request to the system. It has a kind and says what it knows: nothing, a
message, or an error number with a reason and the file concerned. The system's own errors always
have a number, from which kind and reason follow (`SystemError.ofErrno`).

An `InvalidArgument` is a request that never reaches the system, because its arguments cannot be
passed on. -/

namespace Handoff

/-- The kinds of failure that a caller may want to tell apart. -/
inductive SystemError.Kind where
  | general
  | permission
  | notFound
  | noProcess
  | interrupted
  | noChild
  | wouldBlock
  | alreadyExists
  | notDirectory
  | isDirectory
  | brokenPipe
  | connection
  | connectionAborted
  | connectionReset
  | connectionRefused
  | timedOut
  deriving DecidableEq, Repr

/-- The kind that an error number stands for. -/
def SystemError.Kind.ofErrno : Int → SystemError.Kind
  | 1 | 13 => .permission
  | 2 => .notFound
  | 3 => .noProcess
  | 4 => .interrupted
  | 10 => .noChild
  | 11 | 114 | 115 => .wouldBlock
  | 17 => .alreadyExists
  | 20 => .notDirectory
  | 21 => .isDirectory
  | 32 | 108 => .brokenPipe
  | 103 => .connectionAborted
  | 104 => .connectionReset
  | 110 => .timedOut
  | 111 => .connectionRefused
  | _ => .general

/-- What is known about a failure. -/
inductive SystemError.Detail where
  /-- Nothing. -/
  | silent
  /-- A message and no more. -/
  | message (text : String)
  /-- An error number, its reason, and the file concerned, as far as they are known. -/
  | coded (errno : Option Int) (reason : Option String) (file : Option String)
  deriving DecidableEq, Repr

/-- A failed request to the system. -/
structure SystemError where
  kind : SystemError.Kind
  detail : SystemError.Detail
  deriving DecidableEq, Repr

namespace SystemError

/-- The error that the system reports under a number. -/
def ofErrno (errno : Int) (file : Option String) : SystemError :=
  ⟨.ofErrno errno, .coded (some errno) (some (reasonOf errno)) file⟩

/-- The error of a walk along the path `text`. -/
def ofWalk (error : WalkError) (text : String) : SystemError := ofErrno error.errno (some text)

/-- An error of the general kind whose detail has a number is of the kind of that number. -/
def ofDetail (detail : Detail) : SystemError :=
  match detail with
  | .coded (some errno) _ _ => ⟨.ofErrno errno, detail⟩
  | _ => ⟨.general, detail⟩

/-- The error number. -/
def errno? (error : SystemError) : Option Int :=
  match error.detail with
  | .coded errno _ _ => errno
  | _ => none

/-- The reason. -/
def reason? (error : SystemError) : Option String :=
  match error.detail with
  | .coded _ reason _ => reason
  | _ => none

/-- The file concerned. -/
def file? (error : SystemError) : Option String :=
  match error.detail with
  | .coded _ _ file => file
  | _ => none

/-- All that is known, in one line. A missing number or reason is written `None`. -/
def text (error : SystemError) : String :=
  match error.detail with
  | .silent => ""
  | .message text => text
  | .coded errno reason file =>
    "[Errno " ++ (errno.map toString).getD "None" ++ "] " ++ reason.getD "None" ++
      match file with
      | none => ""
      | some name => ": " ++ Text.quoted name

/-- The reason if there is one that says something, else all that is known. -/
def explanation (error : SystemError) : String :=
  match error.reason? with
  | some reason => if reason = "" then error.text else reason
  | none => error.text

/-- Whether the error says that a file is not there: there is nothing with its name, or something
    on the way to it is no directory. -/
def isAbsence (error : SystemError) : Bool :=
  error.kind = .notFound || error.kind = .notDirectory

example : (ofErrno 2 (some "/a'b")).text = "[Errno 2] No such file or directory: \"/a'b\"" := by
  decide

end SystemError

/-- Why a request cannot be passed on to the system. -/
inductive InvalidArgument where
  /-- A text holds the character that ends texts. -/
  | embeddedNull
  /-- There is no program name. -/
  | noArguments
  /-- The program name is empty. -/
  | emptyProgramName
  /-- A variable's name is empty or holds an equals sign after its first character. -/
  | illegalVariableName
  deriving DecidableEq, Repr

/-- The words for an argument that cannot be passed on. -/
def InvalidArgument.message : InvalidArgument → String
  | .embeddedNull => "embedded null byte"
  | .noArguments => "execve: argv must not be empty"
  | .emptyProgramName => "execve: argv first element cannot be empty"
  | .illegalVariableName => "illegal environment variable name"

/-- How a request to the system fails. -/
inductive CallError where
  /-- The system refused it. -/
  | system (error : SystemError)
  /-- It could not be passed on. -/
  | invalid (reason : InvalidArgument)
  deriving DecidableEq, Repr

end Handoff
