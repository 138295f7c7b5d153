import Handoff.Shell.Fields
import Handoff.Shell.Word
import Mathlib.Tactic.SplitIfs

set_option autoImplicit false

/-! # Command lines can be read back

`Shell.commandLine` writes a command as one line and `Shell.fields` reads the words of a line.
`commandLine_faithful` says that nothing is lost on the way, whatever the words hold.

Reading goes through the line from left to right. Each lemma says where the reader is after one part
of what was written, for a whole word `fieldsFrom_quote`, whatever comes behind that part. -/

namespace Handoff.Shell

/-! ## One word -/

/-- A plain character neither ends a word nor opens a quotation. -/
theorem reads_on_of_isPlain {c : Char} (h : isPlain c = true) :
    separates c = false ∧ opensQuote c = false := by
  have hnot : [' ', '\t', '\n', '\'', '"'].all (fun mark => !isPlain mark) = true := by decide
  have hmarks : ∀ mark ∈ [' ', '\t', '\n', '\'', '"'], c ≠ mark := by
    rintro mark hmark rfl
    exact absurd h (by simpa using List.all_eq_true.1 hnot c hmark)
  simpa [separates, opensQuote, and_assoc] using hmarks

theorem fieldsFrom_bare_cons {c : Char} (h : isPlain c = true) (word rest : List Char) :
    fieldsFrom (.bare word) (c :: rest) = fieldsFrom (.bare (word ++ [c])) rest := by
  obtain ⟨hseparates, hopens⟩ := reads_on_of_isPlain h
  rw [fieldsFrom, if_neg (by simp [hseparates]), if_neg (by simp [hopens])]

theorem fieldsFrom_bare_append {plain : List Char} (h : ∀ c ∈ plain, isPlain c = true)
    (word rest : List Char) :
    fieldsFrom (.bare word) (plain ++ rest) = fieldsFrom (.bare (word ++ plain)) rest := by
  induction plain generalizing word with
  | nil => simp
  | cons c plain ih =>
      obtain ⟨hc, hplain⟩ := List.forall_mem_cons.1 h
      rw [List.cons_append, fieldsFrom_bare_cons hc, ih hplain, List.append_assoc]
      rfl

/-- A word that starts with a character that is no separator is read as if it had begun before. -/
theorem fieldsFrom_between {c : Char} (h : separates c = false) (rest : List Char) :
    fieldsFrom .between (c :: rest) = fieldsFrom (.bare []) (c :: rest) := by
  simp [fieldsFrom, h]

/-- A character written for inside single quotes is read as itself, and the reader is inside single
    quotes again. -/
theorem fieldsFrom_quoteChar (c : Char) (word rest : List Char) :
    fieldsFrom (.inside '\'' word) (quoteChar c ++ rest) =
      fieldsFrom (.inside '\'' (word ++ [c])) rest := by
  unfold quoteChar
  split_ifs with hc
  · -- The quote is closed, and its own character follows between double quotes.
    subst hc
    simp [fieldsFrom, separates, opensQuote]
  · rw [List.singleton_append, fieldsFrom, if_neg hc]

theorem fieldsFrom_flatMap_quoteChar (chars word rest : List Char) :
    fieldsFrom (.inside '\'' word) (chars.flatMap quoteChar ++ rest) =
      fieldsFrom (.inside '\'' (word ++ chars)) rest := by
  induction chars generalizing word with
  | nil => simp
  | cons c chars ih =>
      rw [List.flatMap_cons, List.append_assoc, fieldsFrom_quoteChar, ih, List.append_assoc]
      rfl

/-- A word that was written is read as itself, however it was quoted. -/
theorem fieldsFrom_quote (word rest : List Char) :
    fieldsFrom .between (quote word ++ rest) = fieldsFrom (.bare word) rest := by
  have hopen : ∀ inner : List Char,
      fieldsFrom .between ('\'' :: inner) = fieldsFrom (.inside '\'' []) inner := by
    intro inner
    simp [fieldsFrom, separates, opensQuote]
  have hclose : ∀ read : List Char,
      fieldsFrom (.inside '\'' read) ('\'' :: rest) = fieldsFrom (.bare read) rest := by
    intro read
    rw [fieldsFrom, if_pos rfl]
  unfold quote
  split_ifs with hempty hplain
  · obtain rfl : word = [] := List.isEmpty_iff.1 hempty
    rw [List.cons_append, hopen, List.singleton_append, hclose]
  · rw [List.all_eq_true] at hplain
    cases word with
    | nil => exact absurd rfl hempty
    | cons c chars =>
        have hc := (reads_on_of_isPlain (hplain c List.mem_cons_self)).1
        rw [List.cons_append, fieldsFrom_between hc, ← List.cons_append,
          fieldsFrom_bare_append hplain, List.nil_append]
  · rw [List.cons_append, List.cons_append, hopen, List.append_assoc, fieldsFrom_flatMap_quoteChar,
      List.nil_append, List.singleton_append, hclose]

/-! ## The line -/

theorem fieldsFrom_join (words : List (List Char)) :
    fieldsFrom .between (Text.join ' ' (words.map quote)) = some words := by
  induction words with
  | nil => rfl
  | cons word words ih =>
      by_cases hlast : words = []
      · subst hlast
        have hread := fieldsFrom_quote word []
        rw [List.append_nil] at hread
        simpa [Text.join, fieldsFrom] using hread
      · rw [List.map_cons, Text.join_cons_of_ne_nil _ _ (by simpa using hlast), fieldsFrom_quote,
          fieldsFrom, if_pos (by decide), ih]
        rfl

/-- A command line is read back as the words that it was written for: there may be none, and they
    may be empty or hold blanks, quotes or any other characters. So no two commands are written
    alike. -/
theorem commandLine_faithful :
    (∀ words : List String, fields (commandLine words) = some words) ∧
      Function.Injective commandLine := by
  have hread : ∀ words : List String, fields (commandLine words) = some words := by
    intro words
    have hchars : (words.map fun word => quote word.toList) =
        (words.map String.toList).map quote := by
      rw [List.map_map]
      rfl
    rw [fields, commandLine, String.toList_ofList, hchars, fieldsFrom_join]
    simp
  refine ⟨hread, ?_⟩
  intro words others hsame
  have hboth := hread words
  rw [hsame, hread others] at hboth
  exact (Option.some.inj hboth).symm

end Handoff.Shell
