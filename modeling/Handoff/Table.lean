set_option autoImplicit false

/-! # Tables with insertion order

A table binds names to values and remembers the order in which the names were first bound. The
process environment and the contents of a directory are tables.

Every operation is described by what it does to look-up: `get?_set`, `get?_erase` and
`get?_overlay`. The order only matters to a reader that goes through all bindings in turn. -/

namespace Handoff

/-- Values bound to names, in the order in which the names were first bound. -/
abbrev Table (β : Type) := List (String × β)

namespace Table

variable {β : Type}

/-- The value bound to `name`. -/
def get? : Table β → String → Option β
  | [], _ => none
  | (key, value) :: rest, name => if key = name then some value else get? rest name

/-- Bind `name` to `value`: a name that is bound keeps its place, a new one comes last. -/
def set : Table β → String → β → Table β
  | [], name, value => [(name, value)]
  | (key, old) :: rest, name, value =>
    if key = name then (key, value) :: rest else (key, old) :: set rest name value

/-- Remove every binding of `name`. -/
def erase (t : Table β) (name : String) : Table β :=
  t.filter fun entry => entry.1 ≠ name

/-- The bindings of `base` with those of `top` laid over them: a name bound in both keeps its
    place and takes the value of `top`, the other names of `top` follow in their order. -/
def overlay (base top : Table β) : Table β :=
  base.map (fun entry => (entry.1, (get? top entry.1).getD entry.2)) ++
    top.filter fun entry => (get? base entry.1).isNone

/-! ## Look-up after each operation -/

@[simp] theorem get?_nil (name : String) : get? ([] : Table β) name = none := rfl

@[simp] theorem get?_cons (key : String) (value : β) (rest : Table β) (name : String) :
    get? ((key, value) :: rest) name = if key = name then some value else get? rest name := rfl

/-- What is looked up is one of the bindings. -/
theorem mem_of_get? {t : Table β} {name : String} {value : β} (h : get? t name = some value) :
    (name, value) ∈ t := by
  induction t with
  | nil => simp at h
  | cons entry rest ih =>
    obtain ⟨key, old⟩ := entry
    by_cases hk : key = name
    · subst hk
      rw [get?_cons, if_pos rfl] at h
      cases h
      exact List.mem_cons_self
    · rw [get?_cons, if_neg hk] at h
      exact List.mem_cons_of_mem _ (ih h)

theorem get?_append (s t : Table β) (name : String) :
    get? (s ++ t) name = (get? s name).or (get? t name) := by
  induction s with
  | nil => rfl
  | cons entry rest ih =>
    obtain ⟨key, value⟩ := entry
    by_cases h : key = name <;> simp [h, ih]

/-- Binding a name is seen at that name and nowhere else. -/
theorem get?_set (t : Table β) (key : String) (value : β) (name : String) :
    get? (set t key value) name = if key = name then some value else get? t name := by
  induction t with
  | nil => rfl
  | cons entry rest ih =>
    obtain ⟨first, old⟩ := entry
    by_cases hk : first = key
    · subst hk
      by_cases hn : first = name <;> simp [set, hn]
    · by_cases hn : first = name
      · subst hn
        simp [set, hk, Ne.symm hk]
      · simp [set, hk, hn, ih]

/-- Keeping the entries whose name passes a test keeps or drops a name as a whole. -/
theorem get?_filter_name (t : Table β) (keep : String → Bool) (name : String) :
    get? (t.filter fun entry => keep entry.1) name = if keep name then get? t name else none := by
  induction t with
  | nil => simp
  | cons entry rest ih =>
    obtain ⟨key, value⟩ := entry
    by_cases hk : keep key = true
    · by_cases hn : key = name
      · subst hn; simp [hk]
      · simp [hk, hn, ih]
    · by_cases hn : key = name
      · subst hn; simp [hk, ih]
      · simp [hk, hn, ih]

/-- A removed name is unbound and the other names are as before. -/
theorem get?_erase (t : Table β) (key name : String) :
    get? (erase t key) name = if key = name then none else get? t name := by
  unfold erase
  rw [get?_filter_name t (fun n => decide (n ≠ key)) name]
  by_cases h : key = name
  · simp [h]
  · simp [h, Ne.symm h]

/-- Nothing laid over a table changes nothing. -/
@[simp] theorem overlay_nil (base : Table β) : overlay base [] = base := by
  simp [overlay]

/-- Look-up in an overlay asks the upper table first. -/
theorem get?_overlay (base top : Table β) (name : String) :
    get? (overlay base top) name = (get? top name).or (get? base name) := by
  unfold overlay
  rw [get?_append, get?_filter_name top (fun n => (get? base n).isNone) name]
  have lower : get? (base.map fun entry => (entry.1, (get? top entry.1).getD entry.2)) name =
      (get? base name).map ((get? top name).getD ·) := by
    induction base with
    | nil => rfl
    | cons entry rest ih =>
      obtain ⟨key, value⟩ := entry
      by_cases h : key = name
      · subst h; simp
      · simp [h, ih]
  rw [lower]
  cases hb : get? base name <;> cases ht : get? top name <;> simp

/-! ## The bindings after each operation -/

theorem mem_of_mem_set {t : Table β} {key : String} {value : β} {entry : String × β}
    (h : entry ∈ set t key value) : entry = (key, value) ∨ entry ∈ t := by
  induction t with
  | nil => exact .inl (List.mem_singleton.1 h)
  | cons first rest ih =>
    obtain ⟨name, old⟩ := first
    unfold set at h
    split at h
    · next hname =>
      subst hname
      exact (List.mem_cons.1 h).imp_right (List.mem_cons_of_mem _)
    · rcases List.mem_cons.1 h with rfl | hrest
      · exact .inr List.mem_cons_self
      · exact (ih hrest).imp_right (List.mem_cons_of_mem _)

theorem mem_overlay_iff {base top : Table β} {name : String} {value : β} :
    (name, value) ∈ overlay base top ↔
      (∃ old, (name, old) ∈ base ∧ value = (get? top name).getD old) ∨
        ((name, value) ∈ top ∧ get? base name = none) := by
  unfold overlay
  simp only [List.mem_append, List.mem_map, List.mem_filter, Prod.mk.injEq, Prod.exists,
    Option.isNone_iff_eq_none]
  constructor
  · rintro (⟨key, old, hmem, rfl, rfl⟩ | htop)
    · exact .inl ⟨old, hmem, rfl⟩
    · exact .inr htop
  · rintro (⟨old, hmem, rfl⟩ | htop)
    · exact .inl ⟨name, old, hmem, rfl, rfl⟩
    · exact .inr htop

/-- No name is bound twice. -/
def Distinct (t : Table β) : Prop := t.Pairwise fun first second => first.1 ≠ second.1

instance (t : Table β) : Decidable (Distinct t) :=
  inferInstanceAs (Decidable (t.Pairwise fun first second => first.1 ≠ second.1))

/-- In a table that binds no name twice, binding a name leaves no other value under it. -/
theorem eq_of_mem_set {t : Table β} {name : String} {value other : β} (ht : Distinct t)
    (h : (name, other) ∈ set t name value) : other = value := by
  induction t with
  | nil => exact (Prod.mk.inj (List.mem_singleton.1 h)).2
  | cons first rest ih =>
    obtain ⟨key, old⟩ := first
    obtain ⟨hfirst, hrest⟩ := List.pairwise_cons.1 ht
    unfold set at h
    split at h
    · next hkey =>
      rcases List.mem_cons.1 h with heq | hmem
      · exact (Prod.mk.inj heq).2
      · exact absurd hkey (hfirst _ hmem)
    · next hkey =>
      rcases List.mem_cons.1 h with heq | hmem
      · exact absurd (Prod.mk.inj heq).1.symm hkey
      · exact ih hrest hmem

theorem set_set (t : Table β) (name : String) (value value' : β) :
    set (set t name value) name value' = set t name value' := by
  induction t with
  | nil => simp [set]
  | cons first rest ih =>
    obtain ⟨key, old⟩ := first
    by_cases hkey : key = name
    · simp [set, hkey]
    · simp [set, hkey, ih]

theorem erase_set (t : Table β) (name : String) (value : β) :
    erase (set t name value) name = erase t name := by
  induction t with
  | nil => simp [set, erase]
  | cons first rest ih =>
    obtain ⟨key, old⟩ := first
    unfold erase at ih ⊢
    by_cases hkey : key = name
    · simp [set, hkey]
    · simpa [set, hkey] using ih

/-- A name may be removed from two tables before or after one is laid over the other. -/
theorem erase_overlay (base top : Table β) (name : String) :
    erase (overlay base top) name = overlay (erase base name) (erase top name) := by
  -- Both parts of an overlay look names up in the other table, and only those that are kept.
  have hother : ∀ (t : Table β) {entry : String × β}, entry.1 ≠ name →
      get? (erase t name) entry.1 = get? t entry.1 := by
    intro t entry hentry
    rw [get?_erase, if_neg hentry.symm]
  have hlower : (base.map fun entry => (entry.1, (get? top entry.1).getD entry.2)).filter
      (fun entry => entry.1 ≠ name) =
      (base.filter fun entry => entry.1 ≠ name).map
        fun entry => (entry.1, (get? (erase top name) entry.1).getD entry.2) := by
    rw [List.filter_map]
    apply List.map_congr_left
    intro entry hentry
    have hname : entry.1 ≠ name := by simpa using (List.mem_filter.1 hentry).2
    rw [hother top hname]
  have hupper : (top.filter fun entry => (get? base entry.1).isNone).filter
      (fun entry => entry.1 ≠ name) =
      (top.filter fun entry => entry.1 ≠ name).filter
        fun entry => (get? (erase base name) entry.1).isNone := by
    rw [List.filter_filter, List.filter_filter]
    apply List.filter_congr
    intro entry _
    by_cases hname : entry.1 = name
    · simp [hname]
    · rw [hother base hname, Bool.and_comm]
  unfold overlay
  show List.filter _ (_ ++ _) = _
  rw [List.filter_append, hlower, hupper]
  rfl

end Table

end Handoff
