import Handoff.Error.Refusal
import Handoff.Host.Basic

set_option autoImplicit false

/-! # How an operation ends

Besides giving a value or failing, an operation can end by replacing the process, in which case it
never comes back. -/

namespace Handoff

/-- The end of an operation that gives a value of type `α`. -/
inductive Ending (α : Type) where
  /-- It gives a value. -/
  | returned (value : α)
  /-- It replaces the process. -/
  | replaced (image : Image)
  /-- It fails. -/
  | failed (failure : Failure)
  deriving DecidableEq, Repr

namespace Ending

variable {α β : Type}

/-- The end of an operation that gives a value or fails. -/
def ofExcept : Except Failure α → Ending α
  | .ok value => .returned value
  | .error failure => .failed failure

/-- The same end with another value. -/
def map (f : α → β) : Ending α → Ending β
  | .returned value => .returned (f value)
  | .replaced image => .replaced image
  | .failed failure => .failed failure

end Ending

end Handoff
