/-!
Named entries in the order in which their names first came: writing to a name that is there keeps
its place, a new name goes to the end.
-/

namespace MediaMarkup

abbrev Entries (α : Type) := List (String × α)

namespace Entries

variable {α β : Type}

def put (name : String) (value : α) : Entries α → Entries α
  | [] => [(name, value)]
  | entry :: rest =>
    if entry.1 = name then (name, value) :: rest else entry :: put name value rest

def get? (name : String) : Entries α → Option α
  | [] => none
  | entry :: rest => if entry.1 = name then some entry.2 else get? name rest

def erase (name : String) (entries : Entries α) : Entries α :=
  entries.filter (fun entry => entry.1 ≠ name)

def names (entries : Entries α) : List String :=
  entries.map Prod.fst

def putAll (entries new : Entries α) : Entries α :=
  new.foldl (fun all entry => put entry.1 entry.2 all) entries

/-- A repeated name keeps its first place and takes its last value. -/
def ofList (pairs : List (String × α)) : Entries α :=
  putAll [] pairs

/-! ## Lookup after an edit -/

theorem get?_put_self (name : String) (value : α) (entries : Entries α) :
    get? name (put name value entries) = some value := by
  induction entries with
  | nil => simp [put, get?]
  | cons entry rest ih => by_cases h : entry.1 = name <;> simp [put, get?, h, ih]

theorem get?_put_of_ne {name other : String} (h : other ≠ name) (value : α)
    (entries : Entries α) : get? other (put name value entries) = get? other entries := by
  induction entries with
  | nil => simp [put, get?, Ne.symm h]
  | cons entry rest ih =>
    by_cases hn : entry.1 = name
    · simp [put, get?, hn, Ne.symm h]
    · simp [put, get?, hn, ih]

theorem put_of_get? {name : String} {value : α} {entries : Entries α}
    (h : get? name entries = some value) : put name value entries = entries := by
  induction entries with
  | nil => cases h
  | cons entry rest ih =>
    obtain ⟨other, old⟩ := entry
    rw [get?] at h
    rw [put]
    split at h
    · rename_i same
      cases h
      rw [if_pos same, ← same]
    · rename_i ne
      rw [if_neg ne, ih h]

theorem put_of_notMem {name : String} {entries : Entries α} (new : name ∉ names entries)
    (value : α) : put name value entries = entries ++ [(name, value)] := by
  induction entries with
  | nil => rfl
  | cons entry rest ih =>
    rw [names, List.map_cons, List.mem_cons, not_or] at new
    rw [put, if_neg (Ne.symm new.1), ih new.2, List.cons_append]

theorem names_put (name : String) (value : α) (entries : Entries α) :
    names (put name value entries) =
      if name ∈ names entries then names entries else names entries ++ [name] := by
  induction entries with
  | nil => simp [put, names]
  | cons entry rest ih =>
    by_cases h : entry.1 = name
    · simp [put, names, h]
    · have hne : name ≠ entry.1 := Ne.symm h
      simp only [names] at ih
      by_cases hm : name ∈ List.map Prod.fst rest <;>
        simp [put, names, h, hne, ih, hm]

theorem get?_erase_self (name : String) (entries : Entries α) :
    get? name (erase name entries) = none := by
  induction entries with
  | nil => rfl
  | cons entry rest ih =>
    by_cases h : entry.1 = name <;> simp_all [erase, get?]

theorem get?_erase_of_ne {name other : String} (h : other ≠ name) (entries : Entries α) :
    get? other (erase name entries) = get? other entries := by
  unfold erase
  induction entries with
  | nil => rfl
  | cons entry rest ih =>
    by_cases hn : entry.1 = name
    · rw [List.filter_cons_of_neg (by simp [hn]), ih]
      simp [get?, hn, Ne.symm h]
    · rw [List.filter_cons_of_pos (by simp [hn]), get?, get?, ih]

theorem isSome_get? {name : String} {entries : Entries α} :
    (get? name entries).isSome = true ↔ name ∈ names entries := by
  induction entries with
  | nil => simp [get?, names]
  | cons entry rest ih =>
    by_cases h : entry.1 = name
    · simp [get?, names, h]
    · simp only [names] at ih
      simp [get?, names, h, ih, Ne.symm h]

theorem mem_of_get? {name : String} {value : α} {entries : Entries α}
    (present : get? name entries = some value) : (name, value) ∈ entries := by
  induction entries with
  | nil => cases present
  | cons entry rest ih =>
    rw [get?] at present
    split at present
    · rename_i same
      cases present
      rw [← same]
      exact List.mem_cons_self
    · exact List.mem_cons_of_mem _ (ih present)

theorem get?_map (name : String) (f : String → α → β) (entries : Entries α) :
    get? name (entries.map fun entry => (entry.1, f entry.1 entry.2)) =
      (get? name entries).map (f name) := by
  induction entries with
  | nil => rfl
  | cons entry rest ih =>
    by_cases h : entry.1 = name
    · simp [get?, h]
    · simp [get?, h, ih]

/-! ## Lookup after several edits -/

theorem get?_putAll_of_notMem {name : String} {entries new : Entries α} (h : name ∉ names new) :
    get? name (putAll entries new) = get? name entries := by
  induction new generalizing entries with
  | nil => rfl
  | cons entry new ih =>
    rw [names, List.map_cons, List.mem_cons, not_or] at h
    rw [putAll, List.foldl_cons, ← putAll, ih h.2, get?_put_of_ne h.1]

theorem get?_putAll {name : String} {entries new : Entries α} (distinct : (names new).Nodup) :
    get? name (putAll entries new) = (get? name new).or (get? name entries) := by
  induction new generalizing entries with
  | nil => rfl
  | cons entry new ih =>
    rw [names, List.map_cons, List.nodup_cons] at distinct
    rw [putAll, List.foldl_cons, ← putAll]
    by_cases h : entry.1 = name
    · subst h
      rw [get?_putAll_of_notMem distinct.1, get?_put_self]
      simp [get?]
    · rw [ih distinct.2, get?_put_of_ne (Ne.symm h)]
      simp [get?, h]

theorem names_putAll {entries new : Entries α} (h : ∀ name ∈ names new, name ∈ names entries) :
    names (putAll entries new) = names entries := by
  induction new generalizing entries with
  | nil => rfl
  | cons entry new ih =>
    rw [names, List.map_cons, List.forall_mem_cons] at h
    have kept := names_put entry.1 entry.2 entries
    rw [if_pos h.1] at kept
    rw [putAll, List.foldl_cons, ← putAll, ih fun name mem => kept ▸ h.2 name mem, kept]

end Entries

end MediaMarkup
