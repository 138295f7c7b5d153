import Handoff.Text.Split

set_option autoImplicit false

/-! # Words of a shell command line

`quote` writes a word so that a shell reads it back as one word; `commandLine` writes a list of
words. A word of harmless characters is written as it is, every other one in single quotes, where
all characters stand for themselves except the single quote, which is written between double
quotes. -/

namespace Handoff.Shell

/-- Whether a character has no meaning of its own to a shell. -/
def isPlain (c : Char) : Bool :=
  c.isAlphanum || "_@%+=:,./-".toList.contains c

/-- A character as it stands inside single quotes: the quote itself closes them, follows between
    double quotes, and opens them again. -/
def quoteChar (c : Char) : List Char :=
  if c = '\'' then ['\'', '"', '\'', '"', '\''] else [c]

/-- A word as a shell reads it back. -/
def quote (word : List Char) : List Char :=
  if word.isEmpty then ['\'', '\'']
  else if word.all isPlain then word
  else '\'' :: word.flatMap quoteChar ++ ['\'']

/-- The words of a command on one line, each quoted where it has to be. -/
def commandLine (words : List String) : String :=
  String.ofList (Text.join ' ' (words.map fun word => quote word.toList))

example : commandLine ["bash", "./build.sh", "a b", "", "it's"] =
    "bash ./build.sh 'a b' '' 'it'\"'\"'s'" := by decide

end Handoff.Shell
