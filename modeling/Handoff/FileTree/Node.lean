import Handoff.Table
import Handoff.Text.Split

set_option autoImplicit false

/-! # The file tree

Regular files, fifos, symbolic links and directories, seen by the user who owns them all. A
`Location` is the list of names from the root down to a node, so it names a node physically: links
are nodes like others and are never followed here.

`put`, `remove` and `chmod` edit the tree at a location; they ask for no permission and for no
directory. What is put below a node that is no directory stays attached to it, where no walk from
above comes by. -/

namespace Handoff

/-- The permissions of the owner. -/
structure Mode where
  read : Bool
  write : Bool
  execute : Bool
  deriving DecidableEq, Repr

/-- Everything is permitted. -/
def Mode.all : Mode := ⟨true, true, true⟩

/-- The permissions named by the letters `r`, `w` and `x` of a text. -/
def Mode.ofLetters (letters : String) : Mode :=
  ⟨Text.holds letters 'r', Text.holds letters 'w', Text.holds letters 'x'⟩

/-- What a node is. -/
inductive NodeKind where
  /-- A regular file. `launchFault` is the error number with which launching it fails. -/
  | file (mode : Mode) (launchFault : Option Int)
  /-- A named pipe. -/
  | fifo (mode : Mode)
  /-- A symbolic link with its text. -/
  | link (target : String)
  /-- A directory. -/
  | dir (mode : Mode)
  deriving DecidableEq, Repr

/-- The permissions that go with a kind; a link has none of its own. -/
def NodeKind.mode? : NodeKind → Option Mode
  | .file mode _ | .fifo mode | .dir mode => some mode
  | .link _ => none

/-- The kind with other permissions. -/
def NodeKind.withMode (mode : Mode) : NodeKind → NodeKind
  | .file _ fault => .file mode fault
  | .fifo _ => .fifo mode
  | .link target => .link target
  | .dir _ => .dir mode

/-- A node of the file tree with all that is below it. -/
inductive Node where
  | mk (kind : NodeKind) (children : List (String × Node))

/-- The names from the root directory down to a node. -/
abbrev Location := List String

/-- The path text of a location. -/
def Location.text (place : Location) : String := "/" ++ Text.joinWith '/' place

/-- The location that the non-empty components of a text spell out. -/
def Location.ofText (text : String) : Location :=
  (Text.splitOn '/' text).filter (· ≠ "")

namespace Node

/-- What a node is. -/
def kind : Node → NodeKind
  | ⟨kind, _⟩ => kind

/-- The nodes right below a node. -/
def children : Node → Table Node
  | ⟨_, children⟩ => children

/-- A directory without contents, with all permissions. -/
def emptyDir : Node := ⟨.dir .all, []⟩

/-- The permissions of a node. -/
def mode? (node : Node) : Option Mode := node.kind.mode?

/-- Whether a node is a directory. -/
def isDir (node : Node) : Bool := node.kind matches .dir _

/-- The node at a location below this one. -/
def at? : Node → Location → Option Node
  | node, [] => some node
  | node, name :: rest => (node.children.get? name).bind (at? · rest)

/-- What stands at a place where `old` stood once something of a kind is put there: a directory put
    over a directory takes over its contents, everything else replaces what was there. -/
def putOver (old : Node) (kind : NodeKind) : Node :=
  match old.kind, kind with
  | .dir _, .dir _ => ⟨kind, old.children⟩
  | _, _ => ⟨kind, []⟩

/-- Put something at a location. Directories that are missing on the way are made with all
    permissions. -/
def put (old : Node) (kind : NodeKind) : Location → Node
  | [] => old.putOver kind
  | name :: rest =>
    let below := put ((old.children.get? name).getD emptyDir) kind rest
    ⟨old.kind, old.children.set name below⟩

/-- Apply `change` to the node at a location, if there is one. -/
def modify (change : Node → Node) : Location → Node → Node
  | [], old => change old
  | name :: rest, old =>
    match old.children.get? name with
    | some child => ⟨old.kind, old.children.set name (modify change rest child)⟩
    | none => old

/-- Give the node at a location other permissions. -/
def chmod (mode : Mode) (place : Location) (root : Node) : Node :=
  root.modify (fun node => ⟨node.kind.withMode mode, node.children⟩) place

/-- Remove the node at a location, with all that is below it. The root itself stays. -/
def remove (place : Location) (root : Node) : Node :=
  match place.getLast? with
  | some name => root.modify (fun node => ⟨node.kind, node.children.erase name⟩) place.dropLast
  | none => root

@[simp] theorem at?_nil (node : Node) : node.at? [] = some node := rfl

@[simp] theorem at?_cons (node : Node) (name : String) (rest : Location) :
    node.at? (name :: rest) = (node.children.get? name).bind (at? · rest) := rfl

/-- Going down a location in two parts. -/
theorem at?_append (node : Node) (upper lower : Location) :
    node.at? (upper ++ lower) = (node.at? upper).bind (at? · lower) := by
  induction upper generalizing node with
  | nil => rfl
  | cons name rest ih =>
    simp only [List.cons_append, at?_cons, Option.bind_assoc]
    congr 1
    funext child
    exact ih child

end Node

end Handoff
