import Handoff.Console
import Handoff.Table
import Handoff.Text.Blank
import Handoff.Text.SmallForm

set_option autoImplicit false

/-! # Settings

Which script is the delegate, what interprets it, and how much is printed on the way. Only the last
can be chosen from outside, by a variable; `Settings.load` reads it. -/

namespace Handoff

/-- The settings of the launcher. -/
structure Settings where
  /-- The path of the delegate, seen from the project root. -/
  delegate : String := "build.sh"
  /-- The program that interprets the delegate; without one the delegate is run itself. -/
  interpreter : Option String := some "bash"
  /-- The name of the level up to which messages are printed. -/
  logLevel : String := "none"
  deriving DecidableEq, Repr

/-- The variable that chooses the level. -/
def logVariable : String := "CFBUILD_LOG"

namespace Settings

/-- The level that a value chooses: blanks around it and the case of its letters do not matter, and
    a name that is not known chooses silence. -/
def levelOf (value : String) : Level :=
  .ofName (String.ofList (Text.lowerCase (Text.trim value.toList)))

/-- The settings under the given variables. -/
def load (env : Table String) : Settings :=
  { logLevel := (levelOf ((env.get? logVariable).getD "")).name }

/-- The interpreter, unless its name is empty. -/
def interpreter? (settings : Settings) : Option String :=
  settings.interpreter.filter (· ≠ "")

end Settings

end Handoff
