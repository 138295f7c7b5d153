set_option autoImplicit false

/-! # Splitting text at a separator

`split` cuts a text at every occurrence of one character and `join` puts the pieces together
again. Empty pieces are kept, so nothing is lost: `join_split` says that joining undoes splitting,
and `split_join` that splitting undoes joining as long as no piece holds the separator.

The work is done on lists of characters; `splitOn` and `joinWith` are the same on strings. -/

namespace Handoff.Text

/-- The pieces of a text between the occurrences of `sep`. There is always at least one piece. -/
def split (sep : Char) : List Char → List (List Char)
  | [] => [[]]
  | c :: rest =>
    if c = sep then [] :: split sep rest
    else match split sep rest with
      | [] => [[c]]
      | piece :: pieces => (c :: piece) :: pieces

/-- The pieces in order with `sep` between them. -/
def join (sep : Char) : List (List Char) → List Char
  | [] => []
  | [piece] => piece
  | piece :: next :: pieces => piece ++ sep :: join sep (next :: pieces)

/-- The pieces of a string between the occurrences of `sep`. -/
def splitOn (sep : Char) (text : String) : List String :=
  (split sep text.toList).map String.ofList

/-- The strings in order with `sep` between them. -/
def joinWith (sep : Char) (pieces : List String) : String :=
  String.ofList (join sep (pieces.map String.toList))

/-- Whether the string holds the character. -/
def holds (text : String) (c : Char) : Bool := text.toList.contains c

/-- Whether the string starts with the character. -/
def startsWith (text : String) (c : Char) : Bool := text.toList.head? = some c

/-- Whether the string ends with the character. -/
def endsWith (text : String) (c : Char) : Bool := text.toList.getLast? = some c

/-! ## Splitting and joining undo each other -/

theorem split_ne_nil (sep : Char) (text : List Char) : split sep text ≠ [] := by
  cases text with
  | nil => simp [split]
  | cons c rest =>
    unfold split
    split
    · simp
    · split <;> simp

theorem split_cons_sep (sep : Char) (rest : List Char) :
    split sep (sep :: rest) = [] :: split sep rest := by simp [split]

theorem join_cons_of_ne_nil (sep : Char) (piece : List Char) {pieces : List (List Char)}
    (h : pieces ≠ []) : join sep (piece :: pieces) = piece ++ sep :: join sep pieces := by
  cases pieces with
  | nil => exact absurd rfl h
  | cons next pieces => rfl

/-- Joining the pieces gives the text back. -/
theorem join_split (sep : Char) (text : List Char) : join sep (split sep text) = text := by
  induction text with
  | nil => rfl
  | cons c rest ih =>
    by_cases hc : c = sep
    · subst hc
      rw [split_cons_sep, join_cons_of_ne_nil _ _ (split_ne_nil c rest), ih]
      rfl
    · unfold split
      rw [if_neg hc]
      cases hs : split sep rest with
      | nil => exact absurd hs (split_ne_nil sep rest)
      | cons piece pieces =>
        rw [hs] at ih
        cases pieces with
        | nil => simpa [join] using ih
        | cons next pieces => simpa [join] using ih

/-- A text without the separator is one piece. -/
theorem split_of_not_mem {sep : Char} {piece : List Char} (h : sep ∉ piece) :
    split sep piece = [piece] := by
  induction piece with
  | nil => rfl
  | cons c rest ih =>
    simp only [List.mem_cons, not_or] at h
    simp [split, Ne.symm h.1, ih h.2]

/-- A piece without the separator, set in front of a separator, is the first piece. -/
theorem split_append_sep {sep : Char} {piece : List Char} (h : sep ∉ piece) (rest : List Char) :
    split sep (piece ++ sep :: rest) = piece :: split sep rest := by
  induction piece with
  | nil => simp [split]
  | cons c tail ih =>
    simp only [List.mem_cons, not_or] at h
    simp [split, Ne.symm h.1, ih h.2]

/-- Splitting gives the joined pieces back if none of them holds the separator. -/
theorem split_join {sep : Char} : ∀ {pieces : List (List Char)}, pieces ≠ [] →
    (∀ piece ∈ pieces, sep ∉ piece) → split sep (join sep pieces) = pieces
  | [], h, _ => absurd rfl h
  | [piece], _, h => split_of_not_mem (h piece (by simp))
  | piece :: next :: pieces, _, h => by
    rw [join_cons_of_ne_nil _ _ (by simp), split_append_sep (h piece (by simp)),
      split_join (by simp) fun q hq => h q (List.mem_cons_of_mem _ hq)]

/-- No piece holds the separator. -/
theorem not_mem_of_mem_split {sep : Char} {text piece : List Char} (h : piece ∈ split sep text) :
    sep ∉ piece := by
  induction text generalizing piece with
  | nil => simp [split] at h; simp [h]
  | cons c rest ih =>
    unfold split at h
    split at h
    · rcases List.mem_cons.1 h with rfl | h
      · simp
      · exact ih h
    · rename_i hc
      split at h
      · simp at h; simp [h, Ne.symm hc]
      · rename_i first pieces hs
        rcases List.mem_cons.1 h with rfl | h
        · have : sep ∉ first := ih (by simp [hs])
          simp [Ne.symm hc, this]
        · exact ih (by simp [hs, h])

end Handoff.Text
