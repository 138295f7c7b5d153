import Handoff.Settings
import Mathlib.Data.List.Forall2
import Mathlib.Data.List.TakeWhile

set_option autoImplicit false

/-! # Which values choose a level

The values of the variable that chooses the level, as a grammar: the name of a level in letters of
any case, with blanks around it (`Settings.Spells`). `Settings.load_grammar` says that loading the
settings accepts exactly these values, and that every other value, or none, is as good as silence.

Trimming has to take away the blanks at both ends and nothing else (`Text.trim_eq_iff`), and writing
in small letters has to bring about a name from the letters of that name only, be they small or
capital (`Text.lowerCase_eq_iff`). -/

namespace Handoff

namespace Text

/-! ## Blanks -/

/-- The blank characters one by one: the controls from tab to carriage return, the four separators
    of information, the space, the next line, and the spaces and separators of other widths. -/
def blankPoints : List Nat :=
  [0x09, 0x0A, 0x0B, 0x0C, 0x0D, 0x1C, 0x1D, 0x1E, 0x1F, 0x20, 0x85, 0xA0, 0x1680,
   0x2000, 0x2001, 0x2002, 0x2003, 0x2004, 0x2005, 0x2006, 0x2007, 0x2008, 0x2009, 0x200A,
   0x2028, 0x2029, 0x202F, 0x205F, 0x3000]

theorem isBlank_iff {c : Char} : isBlank c = true ↔ c.toNat ∈ blankPoints := by
  simp [isBlank, blankRanges, blankPoints]
  omega

example : blankPoints.length = 29 := rfl

variable {text word front back : List Char}

/-- Trimming takes blanks away, and only at the ends. -/
theorem exists_trim (text : List Char) :
    ∃ front back, text = front ++ trim text ++ back ∧ ∀ c ∈ front ++ back, isBlank c = true := by
  let rest := text.dropWhile isBlank
  refine ⟨text.takeWhile isBlank, (rest.reverse.takeWhile isBlank).reverse, ?_, ?_⟩
  · have hrest : trim text ++ (rest.reverse.takeWhile isBlank).reverse = rest := by
      unfold trim
      rw [← List.reverse_append, List.takeWhile_append_dropWhile, List.reverse_reverse]
    rw [List.append_assoc, hrest, List.takeWhile_append_dropWhile]
  · intro c hmem
    rcases List.mem_append.1 hmem with hfront | hback
    · exact List.mem_takeWhile_imp hfront
    · exact List.mem_takeWhile_imp (List.mem_reverse.1 hback)

/-- Blanks are dropped up to the first character that is none. -/
theorem dropWhile_blank_append (hblank : ∀ c ∈ front, isBlank c = true)
    (hword : ∀ c ∈ word, isBlank c = false) (hne : word ≠ []) (rest : List Char) :
    (front ++ (word ++ rest)).dropWhile isBlank = word ++ rest := by
  obtain ⟨first, others, rfl⟩ := List.exists_cons_of_ne_nil hne
  rw [List.dropWhile_append_of_pos hblank, List.cons_append,
    List.dropWhile_cons_of_neg (by simp [hword first List.mem_cons_self])]

/-- A word without blanks is what trimming leaves of a text exactly if the rest of the text is made
    of blanks, before and behind the word. -/
theorem trim_eq_iff (hword : ∀ c ∈ word, isBlank c = false) (hne : word ≠ []) :
    trim text = word ↔
      ∃ front back, text = front ++ word ++ back ∧ ∀ c ∈ front ++ back, isBlank c = true := by
  constructor
  · rintro rfl
    exact exists_trim text
  · rintro ⟨front, back, rfl, hblank⟩
    obtain ⟨hfront, hback⟩ := List.forall_mem_append.1 hblank
    unfold trim
    rw [List.append_assoc, dropWhile_blank_append hfront hword hne, List.reverse_append,
      ← List.append_nil word.reverse,
      dropWhile_blank_append (by simpa using hback) (by simpa using hword) (by simpa using hne),
      List.append_nil, List.reverse_reverse]

/-! ## Small letters -/

/-- The characters are the same, or the capital and the small form of one ASCII letter. -/
def SameLetter (c d : Char) : Prop :=
  c = d ∨ (c.isUpper = true ∧ d.toNat = c.toNat + 32) ∨
    (d.isUpper = true ∧ c.toNat = d.toNat + 32)

theorem isUpper_iff {c : Char} : c.isUpper = true ↔ 0x41 ≤ c.toNat ∧ c.toNat ≤ 0x5A := by
  show decide (c.val ≥ 'A'.val ∧ c.val ≤ 'Z'.val) = true ↔ _
  simp [UInt32.le_iff_toNat_le, ← Char.toNat_val]

theorem isLower_iff {c : Char} : c.isLower = true ↔ 0x61 ≤ c.toNat ∧ c.toNat ≤ 0x7A := by
  show (decide (c.val ≥ 'a'.val) && decide (c.val ≤ 'z'.val)) = true ↔ _
  simp [UInt32.le_iff_toNat_le, ← Char.toNat_val]

theorem toNat_toLower (c : Char) :
    c.toLower.toNat = if 0x41 ≤ c.toNat ∧ c.toNat ≤ 0x5A then c.toNat + 32 else c.toNat := by
  unfold Char.toLower
  split
  · next h =>
    rw [if_pos (by simpa [UInt32.le_iff_toNat_le, ← Char.toNat_val] using h)]
    have hlast : c.val.toNat ≤ 90 := by simpa using UInt32.le_iff_toNat_le.1 h.2
    simp [← Char.toNat_val, UInt32.toNat_add]
    omega
  · next h =>
    rw [if_neg (by simpa [UInt32.le_iff_toNat_le, ← Char.toNat_val] using h)]

theorem SameLetter.range {c d : Char} (h : SameLetter c d) (hd : d.isLower = true) :
    0x41 ≤ c.toNat ∧ c.toNat ≤ 0x7A := by
  have hsmall := isLower_iff.1 hd
  simp only [SameLetter, isUpper_iff, ← Char.toNat_inj] at h
  omega

theorem SameLetter.not_blank {c d : Char} (h : SameLetter c d) (hd : d.isLower = true) :
    isBlank c = false := by
  have hrange := h.range hd
  rw [Bool.eq_false_iff, Ne, isBlank_iff]
  intro hmem
  simp only [blankPoints, List.mem_cons, List.not_mem_nil, or_false] at hmem
  omega

theorem forall_not_blank {text word : List Char} (h : List.Forall₂ SameLetter text word)
    (hword : ∀ c ∈ word, c.isLower = true) : ∀ c ∈ text, isBlank c = false := by
  induction h with
  | nil => nofun
  | cons hsame _ ih =>
    obtain ⟨hd, hothers⟩ := List.forall_mem_cons.1 hword
    exact List.forall_mem_cons.2 ⟨hsame.not_blank hd, ih hothers⟩

theorem toLower_eq_iff {c d : Char} (hd : d.isLower = true) : c.toLower = d ↔ SameLetter c d := by
  have hsmall := isLower_iff.1 hd
  simp only [SameLetter, isUpper_iff, ← Char.toNat_inj, toNat_toLower]
  split <;> omega

/-- A text becomes a word of small ASCII letters exactly if it is that word in letters of any case.
    The word must not have a k, which is what the sign for kelvin becomes as well. -/
theorem lowerCase_eq_iff {text word : List Char}
    (hword : ∀ c ∈ word, c.isLower = true ∧ c ≠ 'k') :
    lowerCase text = word ↔ List.Forall₂ SameLetter text word := by
  induction text generalizing word with
  | nil => cases word <;> simp [lowerCase]
  | cons c rest ih =>
      by_cases hascii : c.toNat < 0x80
      · cases word with
        | nil => simp [lowerCase, smallForm_of_ascii hascii]
        | cons d others =>
            obtain ⟨hd, hothers⟩ := List.forall_mem_cons.1 hword
            rw [List.forall₂_cons, ← ih hothers, ← toLower_eq_iff hd.1]
            simp [lowerCase, smallForm_of_ascii hascii]
      · -- Neither side holds: the small form has a character that the word cannot have, and
        -- letters of any case are ASCII characters.
        constructor
        · rintro rfl
          obtain ⟨small, hmem, hsmall⟩ := exists_mem_smallForm hascii
          obtain ⟨hlower, hk⟩ := hword small (by simp [lowerCase, hmem])
          have hrange := isLower_iff.1 hlower
          rcases hsmall with rfl | hsmall
          · exact absurd rfl hk
          · omega
        · intro h
          cases h with
          | cons hsame _ =>
            have hrange := hsame.range (hword _ List.mem_cons_self).1
            omega

end Text

/-! ## Values and levels -/

/-- The names of the levels that print something. -/
def Level.speaking : List String := ["error", "info", "debug"]

/-- The level of a name is called by that name, if it is one of the three. -/
theorem Level.name_ofName_eq_iff {text name : String} (hname : name ∈ Level.speaking) :
    (Level.ofName text).name = name ↔ text = name := by
  unfold Level.ofName Level.ofName?
  simp only [Level.speaking, List.mem_cons, List.not_mem_nil, or_false] at hname
  split <;> rcases hname with rfl | rfl | rfl <;> simp_all [Level.name]

namespace Settings

/-- A value spells a name: it is the name in letters of any case, with blanks around it. -/
def Spells (value name : String) : Prop :=
  ∃ front word back, value.toList = front ++ word ++ back ∧
    (∀ c ∈ front ++ back, c.toNat ∈ Text.blankPoints) ∧
    List.Forall₂ Text.SameLetter word name.toList

/-- The names of the levels are made of small letters other than k. -/
theorem isLower_of_mem_speaking {name : String} (hname : name ∈ Level.speaking) :
    name.toList ≠ [] ∧ ∀ c ∈ name.toList, c.isLower = true ∧ c ≠ 'k' := by
  simp only [Level.speaking, List.mem_cons, List.not_mem_nil, or_false] at hname
  rcases hname with rfl | rfl | rfl <;> simp

/-- The trimmed value in small letters is a name exactly if the value spells it. -/
theorem spells_iff {value name : String} (hname : name ∈ Level.speaking) :
    Spells value name ↔ String.ofList (Text.lowerCase (Text.trim value.toList)) = name := by
  obtain ⟨hne, hletters⟩ := isLower_of_mem_speaking hname
  constructor
  · rintro ⟨front, word, back, hvalue, hblank, hword⟩
    have hwordNe : word ≠ [] := by
      rintro rfl
      exact hne (List.forall₂_nil_left_iff.1 hword)
    have hwordBlank : ∀ c ∈ word, Text.isBlank c = false :=
      Text.forall_not_blank hword fun c hc => (hletters c hc).1
    have htrim : Text.trim value.toList = word :=
      (Text.trim_eq_iff hwordBlank hwordNe).2
        ⟨front, back, hvalue, fun c hc => Text.isBlank_iff.2 (hblank c hc)⟩
    rw [htrim, (Text.lowerCase_eq_iff hletters).2 hword, String.ofList_toList]
  · intro h
    obtain ⟨front, back, hvalue, hblank⟩ := Text.exists_trim value.toList
    refine ⟨front, Text.trim value.toList, back, hvalue,
      fun c hc => Text.isBlank_iff.1 (hblank c hc), (Text.lowerCase_eq_iff hletters).1 ?_⟩
    rw [← h, String.toList_ofList]

/-- The level has a speaking name exactly if the variable has a value that spells it. -/
theorem logLevel_load_iff {env : Table String} {name : String} (hname : name ∈ Level.speaking) :
    (load env).logLevel = name ↔
      ∃ value, env.get? "CFBUILD_LOG" = some value ∧ Spells value name := by
  simp only [load, levelOf, logVariable, Level.name_ofName_eq_iff hname, ← spells_iff hname]
  cases env.get? "CFBUILD_LOG" with
  | some value => simp
  | none =>
    -- The empty value stands for a missing one, and spells nothing.
    have hempty : ¬ Spells "" name := by
      rw [spells_iff hname]
      exact fun h => (isLower_of_mem_speaking hname).1 (by rw [← h]; rfl)
    simp [hempty]

/-- A level that is none of the three is silence. -/
theorem logLevel_load_eq_none_iff {env : Table String} :
    (load env).logLevel = "none" ↔ (load env).logLevel ∉ Level.speaking := by
  simp only [load, Level.speaking]
  cases levelOf ((env.get? logVariable).getD "") <;> decide

/-- A level stays the same if it is loaded under its own name. -/
theorem levelOf_name (level : Level) : levelOf level.name = level := by
  cases level <;> decide

/-- Loading the settings accepts exactly the values that spell a level, and does not depend on
    anything else. The script and its interpreter are fixed, and loading from a table that binds the
    variable to the level of the settings gives the same settings again. -/
theorem load_grammar (env : Table String) :
    (load env).delegate = "build.sh" ∧ (load env).interpreter = some "bash" ∧
    (∀ name ∈ ["error", "info", "debug"],
      ((load env).logLevel = name ↔
        ∃ value, env.get? "CFBUILD_LOG" = some value ∧ Spells value name)) ∧
    ((load env).logLevel = "none" ↔
      ∀ value, env.get? "CFBUILD_LOG" = some value →
        ∀ name ∈ ["error", "info", "debug"], ¬ Spells value name) ∧
    (∀ other, other.get? "CFBUILD_LOG" = env.get? "CFBUILD_LOG" → load other = load env) ∧
    (∀ other, other.get? "CFBUILD_LOG" = some (load env).logLevel → load other = load env) := by
  refine ⟨rfl, rfl, fun name hname => logLevel_load_iff hname, ?_, ?_, ?_⟩
  · rw [logLevel_load_eq_none_iff]
    constructor
    · intro hnone value hvalue name hname hspells
      rw [← (logLevel_load_iff hname).2 ⟨value, hvalue, hspells⟩] at hname
      exact hnone hname
    · intro hnone hmem
      obtain ⟨value, hvalue, hspells⟩ := (logLevel_load_iff hmem).1 rfl
      exact hnone value hvalue _ hmem hspells
  · intro other hsame
    simp only [load, logVariable, hsame]
  · intro other hlevel
    simp only [load, logVariable] at hlevel ⊢
    rw [hlevel, Option.getD_some, levelOf_name]

example : (load [("CFBUILD_LOG", "\tDeBuG \n")]).logLevel = "debug" := by decide

end Settings

end Handoff
