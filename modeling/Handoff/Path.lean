import Handoff.Text.Split

set_option autoImplicit false

/-! # Paths as text

A `Path` is what is left of a path's text when the things that name nothing are dropped: empty
components and single dots. It is purely lexical; `..` is kept as an ordinary component until
`collapse` takes it away together with the component before it. Two leading slashes are kept apart
from one, and three or more count as one.

`dirName` works on text instead: it cuts at the last slash and looks at nothing else. -/

namespace Handoff

/-- What a path starts from. -/
inductive Anchor where
  /-- The current directory. -/
  | relative
  /-- The root directory. -/
  | root
  /-- The root directory, written with exactly two slashes. -/
  | twoSlashes
  deriving DecidableEq, Repr

/-- The anchor of a path's text, read off the leading slashes. -/
def Anchor.ofChars : List Char → Anchor
  | '/' :: '/' :: '/' :: _ => .root
  | '/' :: '/' :: _ => .twoSlashes
  | '/' :: _ => .root
  | _ => .relative

/-- The slashes in front of the first component. -/
def Anchor.text : Anchor → String
  | .relative => ""
  | .root => "/"
  | .twoSlashes => "//"

/-- An anchor and the components that follow it. -/
structure Path where
  anchor : Anchor
  parts : List String
  deriving DecidableEq, Repr

namespace Path

/-- Whether a component names something: it is neither empty nor a single dot. -/
def isPart (component : String) : Bool := component ≠ "" && component ≠ "."

/-- The path that a text denotes. -/
def ofText (text : String) : Path :=
  ⟨Anchor.ofChars text.toList, (Text.splitOn '/' text).filter isPart⟩

/-- The text of a path; the path without anchor and components is a single dot. -/
def text (path : Path) : String :=
  if path.anchor = .relative ∧ path.parts = [] then "."
  else path.anchor.text ++ Text.joinWith '/' path.parts

/-- Whether a path starts from the root directory. -/
def isAbsolute (path : Path) : Bool := path.anchor ≠ .relative

/-- The path one component up; a path without components is its own parent. -/
def parent (path : Path) : Path := { path with parts := path.parts.dropLast }

/-- The path `next` as seen from `base`: an absolute `next` stands for itself. -/
def join (base next : Path) : Path :=
  if next.isAbsolute then next else { base with parts := base.parts ++ next.parts }

/-- One more component on the way down from the root: `..` goes back up, and stays at the root. -/
def descend (above : List String) (component : String) : List String :=
  if component = ".." then above.dropLast else above ++ [component]

/-- The path without `..`, each taken away with the component before it. This is for absolute
    paths: at the root there is nothing before it to take away. -/
def collapse (path : Path) : Path := { path with parts := path.parts.foldl descend [] }

/-- The text up to the last slash, without that slash unless nothing else is left. -/
def dirName (text : String) : String :=
  let head := text.toList.reverse.dropWhile (· ≠ '/')
  let name := head.dropWhile (· = '/')
  String.ofList (if name.isEmpty then head.reverse else name.reverse)

/-! ## The operations on anchor and components -/

@[simp] theorem anchor_parent (path : Path) : path.parent.anchor = path.anchor := rfl

@[simp] theorem parts_parent (path : Path) : path.parent.parts = path.parts.dropLast := rfl

theorem join_of_isAbsolute (base : Path) {next : Path} (h : next.isAbsolute = true) :
    base.join next = next := by simp [join, h]

theorem join_of_relative (base : Path) {next : Path} (h : next.isAbsolute = false) :
    base.join next = { base with parts := base.parts ++ next.parts } := by simp [join, h]

example : (ofText "///a/./b//../").text = "/a/b/.." := by decide
example : (ofText "//a/../../b").collapse.text = "//b" := by decide
example : (ofText "").text = "." ∧ (ofText "//").text = "//" := by decide
example : dirName "/a//b" = "/a" ∧ dirName "//b" = "//" ∧ dirName "b" = "" := by decide

end Path

end Handoff
