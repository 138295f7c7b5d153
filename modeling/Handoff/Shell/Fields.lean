set_option autoImplicit false

/-! # Reading a command line

`fields` splits a line into words by the rules of a shell that knows no variables and no
backslash: blanks outside quotes separate words, the characters between two single or two double
quotes stand for themselves, and pieces that touch form one word. A quote that is never closed
makes the line unreadable. -/

namespace Handoff.Shell

/-- Where in a line the reader is. -/
inductive Reading where
  /-- Between words. -/
  | between
  /-- In a word, outside quotes, after the characters `word`. -/
  | bare (word : List Char)
  /-- In a word, inside the quote `mark`, after the characters `word`. -/
  | inside (mark : Char) (word : List Char)
  deriving DecidableEq, Repr

/-- Whether a character separates words. -/
def separates (c : Char) : Bool := c = ' ' || c = '\t' || c = '\n'

/-- Whether a character opens a quotation. -/
def opensQuote (c : Char) : Bool := c = '\'' || c = '"'

/-- The words of the rest of a line, given where the reader is. -/
def fieldsFrom : Reading → List Char → Option (List (List Char))
  | .between, [] => some []
  | .bare word, [] => some [word]
  | .inside _ _, [] => none
  | .between, c :: rest =>
    if separates c then fieldsFrom .between rest
    else if opensQuote c then fieldsFrom (.inside c []) rest
    else fieldsFrom (.bare [c]) rest
  | .bare word, c :: rest =>
    if separates c then (fieldsFrom .between rest).map (word :: ·)
    else if opensQuote c then fieldsFrom (.inside c word) rest
    else fieldsFrom (.bare (word ++ [c])) rest
  | .inside mark word, c :: rest =>
    if c = mark then fieldsFrom (.bare word) rest else fieldsFrom (.inside mark (word ++ [c])) rest

/-- The words of a line. -/
def fields (line : String) : Option (List String) :=
  (fieldsFrom .between line.toList).map (·.map String.ofList)

example : fields " a  'b c'd\"e\" ''" = some ["a", "b cde", ""] := by decide
example : fields "a 'b" = none := by decide

end Handoff.Shell
