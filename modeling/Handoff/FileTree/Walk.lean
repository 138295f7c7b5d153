import Handoff.FileTree.Node

set_option autoImplicit false

/-! # Walking a path

`resolve` takes the text of a path to the location it names, following symbolic links, the last
component's included. A walk goes component by component. A component needs a directory to be
looked up in; a name and the two dotted components also need the permission to pass through it. An
empty component, which is what a trailing slash leaves behind, needs no more than the directory.

At most `maxLinks` links are followed in one walk. The walk is therefore built in two layers:
`stride` goes on until the components are used up or a link is met, and `walk` spends one of the
links that are left and strides on along the target of the link. `walk_nil` and `walk_cons` are
the equations of the two together, and `walk_append` says that a walk can be broken off anywhere
and taken up again with the links that were left. -/

namespace Handoff

/-- Why a walk ends without arriving. -/
inductive WalkError where
  /-- There is nothing with this name. -/
  | missing
  /-- A component is to be looked up in something that is no directory. -/
  | notDirectory
  /-- A directory may not be passed through. -/
  | denied
  /-- A component, or the path as a whole, is too long. -/
  | nameTooLong
  /-- There are too many links on the way. -/
  | tooManyLinks
  deriving DecidableEq, Repr

/-- The error number that the system reports. -/
def WalkError.errno : WalkError → Int
  | .missing => 2
  | .notDirectory => 20
  | .denied => 13
  | .nameTooLong => 36
  | .tooManyLinks => 40

/-- Whether the error says that the path names nothing, rather than that it could not be looked
    at. -/
def WalkError.isAbsence : WalkError → Bool
  | .missing | .notDirectory | .tooManyLinks => true
  | .denied | .nameTooLong => false

/-- The number of links that one walk may follow. -/
def maxLinks : Nat := 40

/-- The number of bytes that one component may have. -/
def maxNameBytes : Nat := 255

/-- The number of bytes that a path has to stay below. -/
def maxPathBytes : Nat := 4096

/-- The components of a path's text. An absolute path starts with an empty one. -/
def components (text : String) : List String := Text.splitOn '/' text

/-- Where a single component leads. -/
inductive Step where
  /-- To a place. -/
  | reach (place : Location)
  /-- To a link with this text. -/
  | follow (target : String)
  /-- Nowhere. -/
  | stop (error : WalkError)
  deriving DecidableEq, Repr

/-- The end of a walk: the place and the number of links that could still have been followed. -/
structure Arrival where
  place : Location
  linksLeft : Nat
  deriving DecidableEq, Repr

namespace Node

/-- Look up one component from the place `here`. -/
def step (root : Node) (here : Location) (component : String) : Step :=
  match root.at? here with
  | some ⟨.dir mode, children⟩ =>
    -- A trailing slash asks for a directory and not for the right to pass through it.
    if component = "" then .reach here
    else if !mode.execute then .stop .denied
    else if component = "." then .reach here
    else if component = ".." then .reach here.dropLast
    else if maxNameBytes < component.utf8ByteSize then .stop .nameTooLong
    else match Table.get? children component with
      | none => .stop .missing
      | some ⟨.link target, _⟩ => .follow target
      | some _ => .reach (here ++ [component])
  | _ => .stop .notDirectory

/-- Go along the components until they are used up or one of them is a link; `onLink` goes on from
    there. -/
def stride (root : Node) (links : Nat)
    (onLink : Location → List String → Except WalkError Arrival) :
    Location → List String → Except WalkError Arrival
  | here, [] => .ok ⟨here, links⟩
  | here, component :: rest =>
    match root.step here component with
    | .reach place => stride root links onLink place rest
    | .follow target =>
      onLink (if Text.startsWith target '/' then [] else here) (components target ++ rest)
    | .stop error => .error error

/-- Go along the components from a place, following up to `links` links. -/
def walk (root : Node) : Nat → Location → List String → Except WalkError Arrival
  | 0 => stride root 0 fun _ _ => .error .tooManyLinks
  | links + 1 => stride root (links + 1) (walk root links)

/-- The place that a path's text names. An absolute path starts at the root, any other one at the
    current directory, if there still is one. -/
def resolve (root : Node) (cwd : Option Location) (text : String) : Except WalkError Location :=
  if text = "" then .error .missing
  else if maxPathBytes ≤ text.utf8ByteSize then .error .nameTooLong
  else
    match if Text.startsWith text '/' then some [] else cwd with
    | none => .error .missing
    | some start => (root.walk maxLinks start (components text)).map Arrival.place

/-! ## The equations of a walk -/

@[simp] theorem walk_nil (root : Node) (links : Nat) (here : Location) :
    root.walk links here [] = .ok ⟨here, links⟩ := by
  cases links <;> rfl

/-- One component of a walk: a link takes one from the links that are left. -/
theorem walk_cons (root : Node) (links : Nat) (here : Location) (component : String)
    (rest : List String) :
    root.walk links here (component :: rest) =
      match root.step here component, links with
      | .reach place, _ => root.walk links place rest
      | .follow _, 0 => .error .tooManyLinks
      | .follow target, left + 1 =>
        root.walk left (if Text.startsWith target '/' then [] else here)
          (components target ++ rest)
      | .stop error, _ => .error error := by
  cases links <;> simp only [walk, stride] <;> cases root.step here component <;> rfl

/-- A walk along two lists of components is a walk along the first and then, with the links that
    are left, along the second. -/
theorem walk_append (root : Node) (links : Nat) (here : Location) (first second : List String) :
    root.walk links here (first ++ second) =
      (root.walk links here first).bind fun arrival =>
        root.walk arrival.linksLeft arrival.place second := by
  induction links generalizing here first with
  | zero =>
    induction first generalizing here with
    | nil => simp [Except.bind]
    | cons component rest ih =>
      rw [List.cons_append, walk_cons, walk_cons]
      cases root.step here component <;> simp [Except.bind, ih]
  | succ left onLink =>
    induction first generalizing here with
    | nil => simp [Except.bind]
    | cons component rest ih =>
      rw [List.cons_append, walk_cons, walk_cons]
      cases root.step here component with
      | reach place => simp [ih]
      | stop error => simp [Except.bind]
      | follow target => simp only [← List.append_assoc, onLink]

end Node

end Handoff
