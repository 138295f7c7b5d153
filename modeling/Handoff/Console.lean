set_option autoImplicit false

/-! # What the launcher prints

The launcher says what it is doing on the error stream only, so that the output stream belongs to
the delegate. How much it says depends on a level: each message has a severity and is printed if
the level reaches it. A level is chosen by name; a name that is not known is as good as `none`. -/

namespace Handoff

/-- How much is printed. -/
inductive Level where
  | silent
  | error
  | info
  | debug
  deriving DecidableEq, Repr

namespace Level

/-- The position of a level in the order from saying nothing to saying all. -/
def rank : Level → Nat
  | .silent => 0
  | .error => 1
  | .info => 2
  | .debug => 3

/-- The name of a level. -/
def name : Level → String
  | .silent => "none"
  | .error => "error"
  | .info => "info"
  | .debug => "debug"

/-- The level with a name. -/
def ofName? : String → Option Level
  | "none" => some .silent
  | "error" => some .error
  | "info" => some .info
  | "debug" => some .debug
  | _ => none

/-- The level that a name chooses, whether it is known or not. -/
def ofName (name : String) : Level := (ofName? name).getD .silent

end Level

/-- How urgent a message is. -/
inductive Severity where
  | error
  | info
  | debug
  deriving DecidableEq, Repr

/-- The least level at which a message is printed. -/
def Severity.level : Severity → Level
  | .error => .error
  | .info => .info
  | .debug => .debug

/-- The word for a severity in front of a message. -/
def Severity.tag : Severity → String
  | .error => "ERROR"
  | .info => "INFO"
  | .debug => "DEBUG"

/-- The streams of a process. -/
inductive Stream where
  | out
  | err
  deriving DecidableEq, Repr

/-- A line that is printed on a stream. -/
structure Print where
  stream : Stream
  line : String
  deriving DecidableEq, Repr

/-- Everything that the prints leave on a stream. -/
def Print.transcript (stream : Stream) (prints : List Print) : String :=
  String.join ((prints.filter (·.stream = stream)).map (·.line ++ "\n"))

/-- A console that prints up to a level, which is kept under the name it was chosen by. -/
structure Console where
  levelName : String := "none"
  deriving DecidableEq, Repr

namespace Console

/-- The level of a console. -/
def level (console : Console) : Level := .ofName console.levelName

/-- The prints that a message of some severity causes. -/
def say (console : Console) (severity : Severity) (message : String) : List Print :=
  if severity.level.rank ≤ console.level.rank then
    [⟨.err, "cfbuild [" ++ severity.tag ++ "] " ++ message⟩]
  else []

/-- The print that tells the user why the launcher stops. It does not depend on the level. -/
def complain (message : String) : Print := ⟨.err, "cfbuild: " ++ message⟩

end Console

end Handoff
