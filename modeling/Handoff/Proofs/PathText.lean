import Handoff.FileTree.Walk
import Handoff.Path
import Mathlib.Logic.Basic
import Mathlib.Tactic.SplitIfs

set_option autoImplicit false

/-! # The text of a path

What writing a path down keeps. `mem_text_toList` finds the characters of a path's text, other than
slashes and dots, in its components. `components_text` reads the components of an absolute path's
text back, and `components_text_append` does so for a path that goes on from another one: the text
goes on where the first path's text ends.

Nothing is lost if the components can be told apart (`Path.Readable`): then `ofText_text` reads the
path back, and cutting the text at its last slash takes the last component away
(`dirName_text`). -/

namespace Handoff

namespace Text

variable {sep c : Char}

theorem split_append (sep : Char) (first second : List Char) :
    split sep (first ++ sep :: second) = split sep first ++ split sep second := by
  induction first with
  | nil => simp [split]
  | cons d rest ih =>
      by_cases hd : d = sep
      · subst hd
        simp only [List.cons_append, split_cons_sep, ih]
      · rw [List.cons_append, split, if_neg hd, ih, split, if_neg hd]
        cases hs : split sep rest with
        | nil => exact absurd hs (split_ne_nil sep rest)
        | cons piece pieces => rfl

theorem join_append {first second : List (List Char)} (hfirst : first ≠ [])
    (hsecond : second ≠ []) :
    join sep (first ++ second) = join sep first ++ sep :: join sep second := by
  induction first with
  | nil => exact absurd rfl hfirst
  | cons piece pieces ih =>
      by_cases hpieces : pieces = []
      · subst hpieces
        exact join_cons_of_ne_nil sep piece hsecond
      · rw [List.cons_append, join_cons_of_ne_nil sep piece (by simp [hpieces]), ih hpieces,
          join_cons_of_ne_nil sep piece hpieces]
        simp

theorem mem_join (hc : c ≠ sep) {pieces : List (List Char)} :
    c ∈ join sep pieces ↔ ∃ piece ∈ pieces, c ∈ piece := by
  induction pieces with
  | nil => simp [join]
  | cons piece pieces ih =>
      by_cases hpieces : pieces = []
      · simp [hpieces, join]
      · rw [join_cons_of_ne_nil sep piece hpieces]
        simp [hc, ih]

/-- The characters of a text, other than the separator, are those of its pieces. -/
theorem mem_splitOn (hc : c ≠ sep) (text : String) :
    c ∈ text.toList ↔ ∃ piece ∈ splitOn sep text, c ∈ piece.toList := by
  have hjoin := @mem_join sep c hc (split sep text.toList)
  rw [join_split] at hjoin
  simp [hjoin, splitOn]

theorem splitOn_ne_nil (sep : Char) (text : String) : splitOn sep text ≠ [] := by
  simp [splitOn, split_ne_nil]

theorem not_mem_of_mem_splitOn {text piece : String} (h : piece ∈ splitOn sep text) :
    sep ∉ piece.toList := by
  obtain ⟨chars, hchars, rfl⟩ := List.mem_map.1 h
  simpa using not_mem_of_mem_split hchars

theorem splitOn_joinWith_append {first second : List String} (hfirst : first ≠ [])
    (hsecond : second ≠ []) :
    splitOn sep (joinWith sep (first ++ second)) =
      splitOn sep (joinWith sep first) ++ splitOn sep (joinWith sep second) := by
  unfold splitOn joinWith
  rw [List.map_append, join_append (by simpa using hfirst) (by simpa using hsecond),
    String.toList_ofList, split_append, List.map_append, String.toList_ofList, String.toList_ofList]

theorem splitOn_joinWith {pieces : List String} (hne : pieces ≠ [])
    (h : ∀ piece ∈ pieces, sep ∉ piece.toList) : splitOn sep (joinWith sep pieces) = pieces := by
  have hchars : split sep (join sep (pieces.map String.toList)) = pieces.map String.toList :=
    split_join (by simpa using hne) (by simpa using h)
  simp [splitOn, joinWith, hchars]

end Text

theorem components_ne_nil (text : String) : components text ≠ [] :=
  Text.splitOn_ne_nil '/' text

/-- What stands behind the last slash of a text. -/
def lastComponent (text : String) : String := (components text).getLast (components_ne_nil text)

theorem getLast?_components (text : String) :
    (components text).getLast? = some (lastComponent text) :=
  List.getLast?_eq_some_getLast (components_ne_nil text)

namespace Path

variable {c : Char} {path base : Path}

/-! ## Characters -/

theorem mem_anchor_text (hc : c ≠ '/') (anchor : Anchor) : c ∉ anchor.text.toList := by
  cases anchor <;> simp [Anchor.text, hc]

/-- A character of a path's text that is neither slash nor dot stands in one of the components. -/
theorem mem_text_toList (hslash : c ≠ '/') (hdot : c ≠ '.') :
    c ∈ path.text.toList ↔ ∃ part ∈ path.parts, c ∈ part.toList := by
  unfold text
  split
  · next h => simp [h.2, hdot]
  · rw [String.toList_append, List.mem_append, Text.joinWith, String.toList_ofList,
      Text.mem_join hslash]
    simp [mem_anchor_text hslash]

/-- Reading a text as a path loses slashes and dots only. -/
theorem mem_text_ofText (hslash : c ≠ '/') (hdot : c ≠ '.') (text : String) :
    c ∈ (ofText text).text.toList ↔ c ∈ text.toList := by
  rw [mem_text_toList hslash hdot, Text.mem_splitOn hslash text]
  constructor
  · rintro ⟨part, hpart, hc⟩
    exact ⟨part, (List.mem_filter.1 hpart).1, hc⟩
  · rintro ⟨piece, hpiece, hc⟩
    refine ⟨piece, List.mem_filter.2 ⟨hpiece, ?_⟩, hc⟩
    have hne : piece ≠ "" := by rintro rfl; simp at hc
    have hnd : piece ≠ "." := by rintro rfl; simp [hdot] at hc
    simp [isPart, hne, hnd]

/-! ## Components -/

theorem slash_not_mem_parts {text part : String} (h : part ∈ (ofText text).parts) :
    '/' ∉ part.toList :=
  Text.not_mem_of_mem_splitOn (List.mem_filter.1 h).1

theorem components_slash (text : String) : components ("/" ++ text) = "" :: components text := by
  simp [components, Text.splitOn, Text.split_cons_sep]

/-- An absolute path is written with a slash in front of each component. -/
theorem components_text (h : path.isAbsolute = true) :
    components path.text =
      (if path.anchor = .twoSlashes then ["", ""] else [""]) ++
        components (Text.joinWith '/' path.parts) := by
  unfold isAbsolute at h
  unfold text
  cases hanchor : path.anchor with
  | relative => simp [hanchor] at h
  | root => simp [Anchor.text, components_slash]
  | twoSlashes =>
      have htwo : "//" ++ Text.joinWith '/' path.parts =
          "/" ++ ("/" ++ Text.joinWith '/' path.parts) := by
        rw [← String.append_assoc]
        rfl
      simp [Anchor.text, htwo, components_slash]

theorem startsWith_text (h : path.isAbsolute = true) : Text.startsWith path.text '/' = true := by
  unfold isAbsolute at h
  unfold text
  cases hanchor : path.anchor with
  | relative => simp [hanchor] at h
  | root => simp [Anchor.text, Text.startsWith]
  | twoSlashes => simp [Anchor.text, Text.startsWith]

/-- Components that are added to a path which has some are written after its text. -/
theorem components_text_append {names : List String} (hbase : base.isAbsolute = true)
    (hparts : base.parts ≠ []) (hnames : names ≠ []) :
    components (text { base with parts := base.parts ++ names }) =
      components base.text ++ components (Text.joinWith '/' names) := by
  rw [components_text (by exact hbase), components_text hbase, List.append_assoc]
  congr 1
  exact Text.splitOn_joinWith_append hparts hnames

/-! ## The text as a whole -/

theorem text_of_isAbsolute (h : path.isAbsolute = true) :
    path.text = path.anchor.text ++ Text.joinWith '/' path.parts := by
  have hanchor : path.anchor ≠ .relative := by simpa [isAbsolute] using h
  simp [text, hanchor]

/-- Components that are added to a path which has some are written behind its text. -/
theorem text_append {names : List String} (hbase : base.isAbsolute = true)
    (hparts : base.parts ≠ []) (hnames : names ≠ []) :
    text { base with parts := base.parts ++ names } =
      base.text ++ "/" ++ Text.joinWith '/' names := by
  have hjoin : Text.joinWith '/' (base.parts ++ names) =
      Text.joinWith '/' base.parts ++ "/" ++ Text.joinWith '/' names := by
    unfold Text.joinWith
    rw [List.map_append, Text.join_append (by simpa using hparts) (by simpa using hnames)]
    apply String.toList_injective
    simp
  rw [text_of_isAbsolute (by exact hbase), text_of_isAbsolute hbase]
  simp only [hjoin, String.append_assoc]

/-- A path that has components is written as the path above it, a slash, which a root directory
    has already, and the last component. -/
theorem text_of_getLast? {name : String} (habs : path.isAbsolute = true)
    (h : path.parts.getLast? = some name) :
    path.text = (if path.parent.parts = [] then path.anchor.text else path.parent.text ++ "/") ++
      name := by
  obtain ⟨above, hparts⟩ := List.getLast?_eq_some_iff.1 h
  obtain ⟨anchor, parts⟩ := path
  obtain rfl : parts = above ++ [name] := hparts
  have hname : Text.joinWith '/' [name] = name := by
    simp [Text.joinWith, Text.join]
  have hparent : parent ⟨anchor, above ++ [name]⟩ = ⟨anchor, above⟩ := by
    simp [parent]
  rw [hparent]
  split_ifs with habove
  · obtain rfl : above = [] := habove
    rw [text_of_isAbsolute habs, List.nil_append, hname]
  · have happend := @text_append ⟨anchor, above⟩ [name] habs habove (by simp)
    rw [hname] at happend
    exact happend

/-! ## Reading the text back -/

/-- Every component names something and is written as one component. -/
def Readable (path : Path) : Prop := ∀ part ∈ path.parts, isPart part = true ∧ '/' ∉ part.toList

theorem readable_ofText (text : String) : (ofText text).Readable := by
  intro part hpart
  exact ⟨(List.mem_filter.1 hpart).2, slash_not_mem_parts hpart⟩

theorem Readable.parent (h : path.Readable) : path.parent.Readable := by
  intro part hpart
  exact h part (List.dropLast_subset _ hpart)

theorem toList_ne_nil_of_isPart {part : String} (h : isPart part = true) : part.toList ≠ [] := by
  intro hnil
  obtain rfl : part = "" := String.toList_eq_nil_iff.1 hnil
  exact absurd h (by decide)

theorem ofChars_anchor_text {anchor : Anchor} (habs : anchor ≠ .relative) {rest : List Char}
    (h : rest.head? ≠ some '/') : Anchor.ofChars (anchor.text.toList ++ rest) = anchor := by
  cases anchor with
  | relative => exact absurd rfl habs
  | root =>
      show Anchor.ofChars ('/' :: rest) = .root
      cases rest with
      | nil => rfl
      | cons c rest =>
          have hc : c ≠ '/' := by simpa using h
          simp [Anchor.ofChars, hc]
  | twoSlashes =>
      show Anchor.ofChars ('/' :: '/' :: rest) = .twoSlashes
      cases rest with
      | nil => rfl
      | cons c rest =>
          have hc : c ≠ '/' := by simpa using h
          simp [Anchor.ofChars, hc]

/-- The first component does not start with a slash. -/
theorem Readable.head?_joinWith (h : path.Readable) :
    (Text.joinWith '/' path.parts).toList.head? ≠ some '/' := by
  unfold Text.joinWith
  rw [String.toList_ofList]
  unfold Readable at h
  cases hparts : path.parts with
  | nil => simp [Text.join]
  | cons part parts =>
      obtain ⟨hpart, hslash⟩ := h part (by simp [hparts])
      obtain ⟨c, chars, hchars⟩ := List.exists_cons_of_ne_nil (toList_ne_nil_of_isPart hpart)
      have hc : c ≠ '/' := by
        rintro rfl
        exact hslash (by simp [hchars])
      by_cases hrest : parts.map String.toList = []
      · simp [hrest, Text.join, hchars, hc]
      · rw [List.map_cons, Text.join_cons_of_ne_nil _ _ hrest, hchars]
        simpa using hc

/-- An absolute path is read back from its text. -/
theorem ofText_text (habs : path.isAbsolute = true) (h : path.Readable) :
    ofText path.text = path := by
  have hanchor : Anchor.ofChars path.text.toList = path.anchor := by
    rw [text_of_isAbsolute habs, String.toList_append]
    exact ofChars_anchor_text (by simpa [isAbsolute] using habs) h.head?_joinWith
  have hparts : (components path.text).filter isPart = path.parts := by
    have hnames : (components (Text.joinWith '/' path.parts)).filter isPart = path.parts := by
      by_cases hnil : path.parts = []
      · rw [hnil]
        decide
      · rw [components, Text.splitOn_joinWith hnil fun part hpart => (h part hpart).2,
          List.filter_eq_self]
        intro part hpart
        exact (h part hpart).1
    rw [components_text habs, List.filter_append, hnames]
    split_ifs <;> rfl
  show Path.mk _ ((components path.text).filter isPart) = path
  rw [hanchor, hparts]

/-! ## Cutting at the last slash -/

/-- A path that has components does not end in a slash. -/
theorem Readable.exists_getLast?_text (h : path.Readable) (habs : path.isAbsolute = true)
    (hne : path.parts ≠ []) : ∃ c, path.text.toList.getLast? = some c ∧ c ≠ '/' := by
  have hlast := List.getLast?_eq_some_getLast hne
  obtain ⟨hpart, hslash⟩ := h _ (List.getLast_mem hne)
  have hname := toList_ne_nil_of_isPart hpart
  refine ⟨_, ?_, fun hc => hslash (hc ▸ List.getLast_mem hname)⟩
  rw [text_of_getLast? habs hlast, String.toList_append, List.getLast?_append,
    List.getLast?_eq_some_getLast hname]
  rfl

/-- Behind the last slash stands a name; the slashes before it are dropped, unless there is nothing
    else. -/
theorem dirName_append (before : String) {name : String} (hname : '/' ∉ name.toList) :
    dirName (before ++ "/" ++ name) =
      let above := before.toList.reverse.dropWhile (· = '/')
      if above.isEmpty then before ++ "/" else String.ofList above.reverse := by
  have htext : (before ++ "/" ++ name).toList = before.toList ++ '/' :: name.toList := by simp
  have hhead : (before ++ "/" ++ name).toList.reverse.dropWhile (· ≠ '/') =
      '/' :: before.toList.reverse := by
    rw [htext, List.reverse_append, List.reverse_cons, List.append_assoc,
      List.dropWhile_append_of_pos, List.singleton_append, List.dropWhile_cons_of_neg (by simp)]
    intro c hc
    have hne : c ≠ '/' := by
      rintro rfl
      exact hname (List.mem_reverse.1 hc)
    simpa using hne
  unfold dirName
  simp only [hhead, List.reverse_cons, List.reverse_reverse]
  rw [List.dropWhile_cons_of_pos (by simp)]
  split_ifs
  · apply String.toList_injective
    simp
  · rfl

/-- The text up to the last slash is that of the path one component up. -/
theorem dirName_text (habs : path.isAbsolute = true) (h : path.Readable) :
    dirName path.text = path.parent.text := by
  by_cases hne : path.parts = []
  · -- A root directory is its own parent.
    obtain ⟨anchor, parts⟩ := path
    obtain rfl : parts = [] := hne
    cases anchor with
    | relative => exact absurd habs (by decide)
    | root => decide
    | twoSlashes => decide
  · have hlast := List.getLast?_eq_some_getLast hne
    obtain ⟨-, hslash⟩ := h _ (List.getLast_mem hne)
    generalize path.parts.getLast hne = name at hlast hslash
    have htext := text_of_getLast? habs hlast
    by_cases habove : path.parent.parts = []
    · -- The slashes in front are all that is left.
      have hparent : path.parent.text = path.anchor.text := by
        rw [@text_of_isAbsolute path.parent habs, habove]
        simp [Text.joinWith, Text.join]
      rw [htext, if_pos habove, hparent]
      cases hanchor : path.anchor with
      | relative => simp [isAbsolute, hanchor] at habs
      | root => exact dirName_append "" hslash
      | twoSlashes => exact dirName_append "/" hslash
    · obtain ⟨c, hc, hne⟩ := h.parent.exists_getLast?_text habs habove
      obtain ⟨above, hend⟩ := List.getLast?_eq_some_iff.1 hc
      rw [htext, if_neg habove, dirName_append _ hslash, hend, List.reverse_append,
        List.reverse_singleton, List.singleton_append,
        List.dropWhile_cons_of_neg (by simpa using hne)]
      simp only
      rw [if_neg (by simp), List.reverse_cons, List.reverse_reverse, ← hend, String.ofList_toList]

end Path

end Handoff
