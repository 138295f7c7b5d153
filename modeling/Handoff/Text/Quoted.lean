import Handoff.Text.Printable

set_option autoImplicit false

/-! # Quoted text

How a file name is shown inside an error message: in quote marks, with a backslash before the mark
and before a backslash, short escapes for tab, line feed and carriage return, and the code point in
hexadecimal for every other character that is not printable. -/

namespace Handoff.Text

/-- The last `width` hexadecimal digits of `n`, in small letters. -/
def hexDigits : Nat → Nat → List Char
  | 0, _ => []
  | width + 1, n => hexDigits width (n / 16) ++ [Nat.digitChar (n % 16)]

/-- The numeric escape of a character, in the shortest of the three widths that holds it. -/
def hexEscape (c : Char) : List Char :=
  if c.toNat < 0x100 then '\\' :: 'x' :: hexDigits 2 c.toNat
  else if c.toNat < 0x10000 then '\\' :: 'u' :: hexDigits 4 c.toNat
  else '\\' :: 'U' :: hexDigits 8 c.toNat

/-- A character as it stands between two `mark`s. -/
def quotedChar (mark c : Char) : List Char :=
  if c = mark ∨ c = '\\' then ['\\', c]
  else if c = '\t' then ['\\', 't']
  else if c = '\n' then ['\\', 'n']
  else if c = '\r' then ['\\', 'r']
  else if isPrintable c then [c]
  else hexEscape c

/-- The quote mark for a text: the single one, unless the text holds it and not the double one. -/
def quoteMark (text : List Char) : Char :=
  if '\'' ∈ text ∧ '"' ∉ text then '"' else '\''

/-- The text in quote marks. -/
def quoted (text : String) : String :=
  let mark := quoteMark text.toList
  String.ofList (mark :: text.toList.flatMap (quotedChar mark) ++ [mark])

example : quoted "/p/it's" = "\"/p/it's\"" := by decide
example : quoted "a\tb\\" = "'a\\tb\\\\'" := by decide
example : quoted "'\"" = "'\\'\"'" := by decide

end Handoff.Text
