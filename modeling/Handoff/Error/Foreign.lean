import Handoff.Text.Quoted
import Handoff.Text.Split

set_option autoImplicit false

/-! # Foreign failures

A `ForeignFailure` is raised by a runner that the caller supplies and means nothing to the launcher,
which passes it on. It has a kind, the values it was raised with, and a wording, the rule by which
its message is made of the values.

Two values can be compared: `RaisedValue.same_iff` says that the comparison holds of equal values
only. -/

namespace Handoff

/-- A value that a failure was raised with. -/
inductive RaisedValue where
  | text (content : String)
  | number (value : Int)
  | truth (value : Bool)
  | nothing
  | list (items : List RaisedValue)
  | table (entries : List (String × RaisedValue))
  deriving Repr

namespace RaisedValue

/-! ## Values as text -/

mutual

/-- A value among others: a text is quoted. -/
def listed : RaisedValue → String
  | .text content => Text.quoted content
  | .number value => toString value
  | .truth true => "True"
  | .truth false => "False"
  | .nothing => "None"
  | .list items => "[" ++ listing items ++ "]"
  | .table entries => "\x7b" ++ tableListing entries ++ "\x7d"

/-- Values one after the other. -/
def listing : List RaisedValue → String
  | [] => ""
  | [value] => value.listed
  | value :: rest => value.listed ++ ", " ++ listing rest

/-- Entries of a table one after the other. -/
def tableListing : List (String × RaisedValue) → String
  | [] => ""
  | [(key, value)] => Text.quoted key ++ ": " ++ value.listed
  | (key, value) :: rest => Text.quoted key ++ ": " ++ value.listed ++ ", " ++ tableListing rest

end

/-- A value by itself: as among others, but a text stands without quotes. -/
def shown : RaisedValue → String
  | .text content => content
  | other => other.listed

example : (list [.text "a", .number 1, .nothing]).shown = "['a', 1, None]" := by decide
example : (table [("k", .list []), ("l", .truth true)]).shown = "\x7b'k': [], 'l': True\x7d" := by
  decide

/-- The values that a value is made of: the characters of a text, the items of a list, the keys of a
    table. -/
def parts : RaisedValue → List RaisedValue
  | .text content => content.toList.map fun c => .text (String.singleton c)
  | .list items => items
  | .table entries => entries.map fun (key, _) => .text key
  | _ => []

/-! ## Equality -/

mutual

/-- Whether two values are the same. -/
def same : RaisedValue → RaisedValue → Bool
  | .text a, .text b => a = b
  | .number a, .number b => a = b
  | .truth a, .truth b => a = b
  | .nothing, .nothing => true
  | .list a, .list b => sameItems a b
  | .table a, .table b => sameEntries a b
  | _, _ => false

/-- Whether two lists hold the same values. -/
def sameItems : List RaisedValue → List RaisedValue → Bool
  | [], [] => true
  | a :: as, b :: bs => same a b && sameItems as bs
  | _, _ => false

/-- Whether two tables hold the same entries in the same order. -/
def sameEntries : List (String × RaisedValue) → List (String × RaisedValue) → Bool
  | [], [] => true
  | (j, a) :: as, (k, b) :: bs => j = k && same a b && sameEntries as bs
  | _, _ => false

end

mutual

theorem same_iff : ∀ a b : RaisedValue, same a b = true ↔ a = b
  | .text _, b | .number _, b | .truth _, b | .nothing, b => by cases b <;> simp [same]
  | .list a, b => by
    cases b with
    | list b => simp [same, sameItems_iff a b]
    | _ => simp [same]
  | .table a, b => by
    cases b with
    | table b => simp [same, sameEntries_iff a b]
    | _ => simp [same]

theorem sameItems_iff : ∀ a b : List RaisedValue, sameItems a b = true ↔ a = b
  | [], b => by cases b <;> simp [sameItems]
  | a :: as, b => by
    cases b with
    | nil => simp [sameItems]
    | cons b bs => simp [sameItems, same_iff a b, sameItems_iff as bs]

theorem sameEntries_iff :
    ∀ a b : List (String × RaisedValue), sameEntries a b = true ↔ a = b
  | [], b => by cases b <;> simp [sameEntries]
  | (j, a) :: as, b => by
    cases b with
    | nil => simp [sameEntries]
    | cons b bs => simp [sameEntries, same_iff a b.2, sameEntries_iff as bs, Prod.ext_iff]

end

instance : DecidableEq RaisedValue := fun a b => decidable_of_iff _ (same_iff a b)

end RaisedValue

/-! ## Messages -/

/-- How a foreign failure makes a message of its values. -/
inductive ForeignFailure.Wording where
  /-- The values as they are. -/
  | plain
  /-- Of a look-up that failed: a single value, the key, is quoted. -/
  | lookup
  /-- Of a fault in a source text: the first value, and the file and the line if they are the first
      parts of a second value. -/
  | sourceFault
  /-- Of a text that cannot be encoded. The values are the codec, the text, the position of the
      first character concerned, the position after the last one, and the reason. -/
  | encoding
  /-- Of a text that cannot be mapped. The values are the same without the codec. -/
  | mapping
  deriving DecidableEq, Repr

/-- A failure that means nothing to the launcher. -/
structure ForeignFailure where
  kind : String
  /-- The values it was raised with. -/
  values : List RaisedValue
  wording : ForeignFailure.Wording := .plain
  deriving DecidableEq, Repr

namespace ForeignFailure

/-- A line number as it is written. One that does not fit a word of 64 bits is written `-1`. -/
def lineText (line : Int) : String :=
  toString (if -0x8000000000000000 ≤ line ∧ line < 0x8000000000000000 then line else -1)

/-- Where in a source text a fault is: the name of the file without its directory, and the line, as
    far as they are known. -/
def place : List RaisedValue → String
  | .text file :: .number line :: _ => " (" ++ baseName file ++ ", line " ++ lineText line ++ ")"
  | .text file :: _ => " (" ++ baseName file ++ ")"
  | _ :: .number line :: _ => " (line " ++ lineText line ++ ")"
  | _ => ""
where
  /-- What follows the last slash. -/
  baseName (file : String) : String := ((Text.splitOn '/' file).getLast?).getD ""

/-- Which characters of `content` cannot be treated: the one at `start`, which is shown, or those
    from `start` up to `stop`. -/
def charactersConcerned (content : String) (start stop : Int) : String :=
  match if stop = start + 1 then content.toList[start.toNat]? else none with
  | some c => "character '" ++ String.ofList (Text.hexEscape c) ++ "' in position " ++ toString start
  | none => "characters in position " ++ toString start ++ "-" ++ toString (stop - 1)

/-- The message that a wording makes of values. Where it asks for nothing else, that is nothing, the
    only value, or the values in parentheses. -/
def Wording.message : Wording → List RaisedValue → String
  | .lookup, [key] => key.listed
  | .sourceFault, [] => RaisedValue.nothing.shown
  | .sourceFault, [fault, location] => fault.shown ++ place location.parts
  | .sourceFault, fault :: _ => fault.shown
  | .encoding, [.text codec, .text content, .number start, .number stop, .text reason] =>
    "'" ++ codec ++ "' codec can't encode " ++ charactersConcerned content start stop ++ ": " ++
      reason
  | .mapping, [.text content, .number start, .number stop, .text reason] =>
    "can't translate " ++ charactersConcerned content start stop ++ ": " ++ reason
  | _, [] => ""
  | _, [value] => value.shown
  | _, values => "(" ++ RaisedValue.listing values ++ ")"

/-- The message of a foreign failure. -/
def message (failure : ForeignFailure) : String := failure.wording.message failure.values

example : Wording.plain.message [.text "a", .text "b"] = "('a', 'b')" := by decide
example : Wording.lookup.message [.text "it's"] = "\"it's\"" := by decide
example : Wording.sourceFault.message [] = "None" := by decide
example : Wording.sourceFault.message
    [.text "bad", .list [.text "d/f", .number 3, .number 1, .text "x"]] = "bad (f, line 3)" := by
  decide
example : Wording.encoding.message
    [.text "ascii", .text "aé", .number 1, .number 2, .text "no"] =
      "'ascii' codec can't encode character '\\xe9' in position 1: no" := by decide

end ForeignFailure

end Handoff
