import Mathlib.Data.List.Basic
import Mathlib.Data.List.Induction
import MediaMarkup.Entries

/-!
Entries that are overridden by others. Names stay distinct and keep their places
(`names_prefix_putAll`), a list in which names come twice may be brought together before it is
written (`putAll_ofList`), and entries are the same if they have the same names in the same order
with the same values (`ext`). Writing to a name that is there, and erasing one, are revisions in
place (`put_eq_revise`, `erase_eq_revise`).
-/

namespace MediaMarkup.Entries

variable {α : Type} {name other : String} {value : α} {entries new : Entries α}

/-! ## One entry -/

theorem mem_put {entry : String × α} (h : entry ∈ put name value entries) :
    entry ∈ entries ∨ entry = (name, value) := by
  induction entries with
  | nil => exact .inr (List.mem_singleton.mp h)
  | cons first rest ih =>
    unfold put at h
    split at h
    · rcases List.mem_cons.mp h with new | old
      · exact .inr new
      · exact .inl (List.mem_cons_of_mem _ old)
    · rcases List.mem_cons.mp h with old | h
      · exact .inl (old ▸ List.mem_cons_self)
      · exact (ih h).imp_left (List.mem_cons_of_mem _)

theorem nodup_put (distinct : (names entries).Nodup) : (names (put name value entries)).Nodup := by
  rw [names_put]
  split
  · exact distinct
  · rename_i new
    rw [List.nodup_append]
    refine ⟨distinct, by simp, ?_⟩
    rintro other mem last same rfl
    rw [List.mem_singleton] at same
    exact new (same ▸ mem)

theorem get?_of_mem (distinct : (names entries).Nodup) (mem : (name, value) ∈ entries) :
    get? name entries = some value := by
  induction entries with
  | nil => cases mem
  | cons entry rest ih =>
    rw [names, List.map_cons, List.nodup_cons] at distinct
    rw [get?]
    rcases List.mem_cons.mp mem with rfl | mem
    · rw [if_pos rfl]
    · have later : name ∈ names rest := List.mem_map_of_mem mem
      have ne : entry.1 ≠ name := fun same => distinct.1 (same ▸ later)
      rw [if_neg ne, ih distinct.2 mem]

/-- The order of entries does not matter for lookup. -/
theorem get?_perm {entries' : Entries α} (distinct : (names entries).Nodup)
    (same : entries'.Perm entries) (name : String) : get? name entries' = get? name entries := by
  have distinct' : (names entries').Nodup := (same.map Prod.fst).nodup_iff.mpr distinct
  cases found : get? name entries with
  | some value => exact get?_of_mem distinct' (same.mem_iff.mpr (mem_of_get? found))
  | none =>
    cases found' : get? name entries' with
    | none => rfl
    | some value =>
      rw [get?_of_mem distinct (same.mem_iff.mp (mem_of_get? found'))] at found
      cases found

/-- Distinct names in the same order with the same values are the same entries. -/
theorem ext {first second : Entries α} (distinct : (names first).Nodup)
    (sameNames : names first = names second)
    (lookup : ∀ name ∈ names first, get? name first = get? name second) : first = second := by
  induction first generalizing second with
  | nil => exact (List.map_eq_nil_iff.mp sameNames.symm).symm
  | cons entry rest ih =>
    cases second with
    | nil => cases sameNames
    | cons entry' rest' =>
      obtain ⟨name, value⟩ := entry
      obtain ⟨name', value'⟩ := entry'
      simp only [names, List.map_cons, List.cons.injEq, List.nodup_cons] at distinct sameNames
      obtain ⟨rfl, sameNames⟩ := sameNames
      have here := lookup name List.mem_cons_self
      simp only [get?, ↓reduceIte, Option.some.injEq] at here
      rw [here, ih distinct.2 sameNames]
      intro other mem
      have ne : name ≠ other := fun same => distinct.1 (same ▸ mem)
      simpa [get?, ne] using lookup other (List.mem_cons_of_mem _ mem)

theorem cons_of_prefix {rest : List String} (starts : name :: rest <+: names entries) :
    ∃ value entries', entries = (name, value) :: entries' ∧ rest <+: names entries' := by
  cases entries with
  | nil => simp [names] at starts
  | cons entry entries' =>
    rw [names, List.map_cons, List.cons_prefix_cons] at starts
    exact ⟨entry.2, entries', by rw [starts.1], starts.2⟩

/-! ## Writing twice -/

theorem put_put (old : α) : put name value (put name old entries) = put name value entries := by
  induction entries with
  | nil => simp [put]
  | cons entry rest ih => by_cases h : entry.1 = name <;> simp [put, h, ih]

/-- Writing to a name that is there does not depend on what is written to others. -/
theorem put_comm (present : name ∈ names entries) (ne : other ≠ name) (value' : α) :
    put name value (put other value' entries) = put other value' (put name value entries) := by
  induction entries with
  | nil => cases present
  | cons entry rest ih =>
    rw [names, List.map_cons, List.mem_cons] at present
    by_cases h : entry.1 = name
    · have h' : entry.1 ≠ other := fun same => ne (same.symm.trans h)
      simp [put, h, Ne.symm ne]
    · by_cases h' : entry.1 = other
      · simp [put, h', ne]
      · simp [put, h, h', ih (present.resolve_left (Ne.symm h))]

/-! ## Writing entries -/

theorem putAll_cons (entry : String × α) :
    putAll entries (entry :: new) = putAll (put entry.1 entry.2 entries) new := rfl

theorem putAll_append (more : Entries α) :
    putAll entries (new ++ more) = putAll (putAll entries new) more :=
  List.foldl_append

theorem mem_putAll {entry : String × α} (h : entry ∈ putAll entries new) :
    entry ∈ entries ∨ entry ∈ new := by
  induction new generalizing entries with
  | nil => exact .inl h
  | cons first rest ih =>
    rw [List.mem_cons]
    rcases ih h with h | h
    · exact (mem_put h).imp_right .inl
    · exact .inr (.inr h)

theorem nodup_putAll (distinct : (names entries).Nodup) : (names (putAll entries new)).Nodup := by
  induction new generalizing entries with
  | nil => exact distinct
  | cons entry rest ih => exact ih (nodup_put distinct)

theorem nodup_ofList (pairs : List (String × α)) : (names (ofList pairs)).Nodup :=
  nodup_putAll List.nodup_nil

/-- Names keep their places. -/
theorem names_prefix_putAll (entries new : Entries α) :
    names entries <+: names (putAll entries new) := by
  induction new generalizing entries with
  | nil => exact List.prefix_refl _
  | cons entry rest ih =>
    refine List.IsPrefix.trans ?_ (ih _)
    rw [names_put]
    split
    · exact List.prefix_refl _
    · exact List.prefix_append _ _

theorem mem_names_putAll : name ∈ names (putAll entries new) ↔
    name ∈ names entries ∨ name ∈ names new := by
  induction new generalizing entries with
  | nil => simp [putAll, names]
  | cons entry rest ih =>
    rw [putAll_cons, ih, names_put]
    split
    · rename_i here
      simp only [names, List.map_cons, List.mem_cons] at here ⊢
      constructor
      · exact fun h => h.imp_right .inr
      · rintro (old | rfl | late)
        · exact .inl old
        · exact .inl here
        · exact .inr late
    · simp only [names, List.map_cons, List.mem_cons, List.mem_append, List.not_mem_nil, or_false,
        or_assoc]

/-- Names that are there keep their places, and the others come behind them in the order in which
they are written. -/
theorem names_putAll_eq (distinct : (names new).Nodup) :
    names (putAll entries new) = names entries ++ (names new).filter (· ∉ names entries) := by
  induction new generalizing entries with
  | nil => simp [putAll, names]
  | cons entry rest ih =>
    have later : entry.1 ∉ names rest ∧ (names rest).Nodup := List.nodup_cons.mp distinct
    have first : names (entry :: rest) = entry.1 :: names rest := rfl
    rw [putAll_cons, ih later.2, names_put, first]
    by_cases here : entry.1 ∈ names entries
    · rw [if_pos here, List.filter_cons_of_neg (by simpa using here)]
    · have others : (names rest).filter (· ∉ names entries ++ [entry.1]) =
          (names rest).filter (· ∉ names entries) := by
        apply List.filter_congr
        intro name mem
        have ne : name ≠ entry.1 := fun same => later.1 (same ▸ mem)
        simp [ne]
      rw [if_neg here, List.filter_cons_of_pos (by simpa using here), others, List.append_assoc]
      rfl

theorem get?_putAll_of_mem (distinct : (names new).Nodup) (mem : (name, value) ∈ new) :
    get? name (putAll entries new) = some value := by
  rw [get?_putAll distinct, get?_of_mem distinct mem]
  rfl

/-- New names go to the end. -/
theorem putAll_of_nodup (distinct : (names (entries ++ new)).Nodup) :
    putAll entries new = entries ++ new := by
  induction new generalizing entries with
  | nil => exact (List.append_nil entries).symm
  | cons entry rest ih =>
    have new : entry.1 ∉ names entries := by
      rw [names, List.map_append, List.map_cons, List.nodup_append] at distinct
      exact fun mem => distinct.2.2 _ mem _ List.mem_cons_self rfl
    have regrouped : entries ++ entry :: rest = entries ++ [entry] ++ rest := by simp
    rw [regrouped] at distinct ⊢
    rw [putAll_cons, put_of_notMem new, ih distinct]

theorem ofList_of_nodup (distinct : (names entries).Nodup) : ofList entries = entries :=
  putAll_of_nodup distinct

/-- A name that is there can be written first. -/
theorem put_putAll (present : name ∈ names entries) (new' : name ∉ names new) :
    put name value (putAll entries new) = putAll (put name value entries) new := by
  induction new generalizing entries with
  | nil => rfl
  | cons entry rest ih =>
    rw [names, List.map_cons, List.mem_cons, not_or] at new'
    have present' : name ∈ names (put entry.1 entry.2 entries) := by
      rw [names_put]
      split <;> simp [present]
    rw [putAll_cons, putAll_cons, ih present' new'.2, put_comm present (Ne.symm new'.1)]

theorem putAll_put (distinct : (names new).Nodup) :
    putAll entries (put name value new) = put name value (putAll entries new) := by
  induction new generalizing entries with
  | nil => rfl
  | cons entry rest ih =>
    rw [names, List.map_cons, List.nodup_cons] at distinct
    rw [put]
    split
    · rename_i same
      have present : name ∈ names (put name entry.2 entries) := by
        rw [← isSome_get?, get?_put_self]
        rfl
      rw [putAll_cons, putAll_cons, same, put_putAll present (same ▸ distinct.1), put_put]
    · rw [putAll_cons, putAll_cons, ih distinct.2]

/-- Repeated names may be brought together before they are written. -/
theorem putAll_ofList (pairs : List (String × α)) :
    putAll entries (ofList pairs) = putAll entries pairs := by
  induction pairs using List.reverseRecOn with
  | nil => rfl
  | append_singleton pairs pair ih =>
    have last : ofList (pairs ++ [pair]) = put pair.1 pair.2 (ofList pairs) := putAll_append _
    rw [last, putAll_put (nodup_ofList pairs), ih, putAll_append]
    rfl

theorem ofList_flatMap_ofList {β : Type} (items : List β) (pairs : β → List (String × α)) :
    ofList (items.flatMap fun item => ofList (pairs item)) = ofList (items.flatMap pairs) := by
  induction items using List.reverseRecOn with
  | nil => rfl
  | append_singleton items item ih =>
    simp only [List.flatMap_append, List.flatMap_singleton]
    rw [ofList, putAll_append, ← ofList, ih, putAll_ofList, ofList, ofList, putAll_append]

/-! ## What is left of both -/

/-- Entries with others written over them: every name keeps its place, new names come behind, and
where both have a value the new one counts. -/
structure Overrides (new old result : Entries α) : Prop where
  names_eq : names result = names old ++ (names new).filter (· ∉ names old)
  lookup : ∀ name, get? name result = (get? name new).or (get? name old)

theorem overrides_putAll (distinct : (names new).Nodup) :
    Overrides new entries (putAll entries new) :=
  ⟨names_putAll_eq distinct, fun _ => get?_putAll distinct⟩

/-! ## Revising entries -/

/-- Entries with every value revised in its place, or taken away. -/
def revise (revision : String → α → Option α) (entries : Entries α) : Entries α :=
  entries.filterMap fun entry => (revision entry.1 entry.2).map (entry.1, ·)

/-- The revision of what stands under one name. -/
def under (name : String) (revision : α → Option α) : String → α → Option α := fun other value =>
  if other = name then revision value else some value

theorem under_self (name : String) (f : α → Option α) : under name f name = f := by
  funext value
  exact if_pos rfl

theorem under_of_ne (ne : other ≠ name) (f : α → Option α) :
    under name f other = some := by
  funext value
  exact if_neg ne

theorem revise_congr {f g : String → α → Option α}
    (same : ∀ name value, (name, value) ∈ entries → f name value = g name value) :
    entries.revise f = entries.revise g := by
  apply List.filterMap_congr
  intro entry mem
  rw [same entry.1 entry.2 mem]

theorem revise_revise (f g : String → α → Option α) (entries : Entries α) :
    (entries.revise f).revise g =
      entries.revise fun name value => (f name value).bind (g name) := by
  rw [revise, revise, revise, List.filterMap_filterMap]
  congr 1
  funext entry
  cases f entry.1 entry.2 <;> rfl

theorem revise_cons (f : String → α → Option α) (name : String) (value : α) (entries : Entries α) :
    revise f ((name, value) :: entries) =
      ((f name value).map (name, ·)).toList ++ revise f entries := by
  rw [revise, List.filterMap_cons]
  cases f name value <;> rfl

theorem revise_under_congr {f g : α → Option α}
    (same : ∀ value, (name, value) ∈ entries → f value = g value) :
    entries.revise (under name f) = entries.revise (under name g) := by
  apply revise_congr
  intro other value mem
  unfold under
  split
  · rename_i here
    exact same value (here ▸ mem)
  · rfl

theorem revise_under_of_some {f : α → Option α}
    (same : ∀ value, (name, value) ∈ entries → f value = some value) :
    entries.revise (under name f) = entries := by
  have whole : under name some = fun _ (value : α) => some value := by
    funext other value
    exact ite_self _
  rw [revise_under_congr same, whole]
  exact List.filterMap_some

/-- Other names keep their values. -/
theorem revise_under_of_notMem (absent : name ∉ names entries) (f : α → Option α) :
    entries.revise (under name f) = entries :=
  revise_under_of_some fun _ mem => absurd (List.mem_map_of_mem mem) absent

/-- Writing to a name that is there revises what stands under it. -/
theorem put_eq_revise (distinct : (names entries).Nodup) (present : name ∈ names entries) :
    put name value entries = entries.revise (under name fun _ => some value) := by
  induction entries with
  | nil => cases present
  | cons entry rest ih =>
    obtain ⟨other, old⟩ := entry
    have later : other ∉ names rest ∧ (names rest).Nodup := List.nodup_cons.mp distinct
    rw [put, revise_cons, under]
    by_cases same : other = name
    · rw [if_pos same, if_pos same, revise_under_of_notMem (same ▸ later.1), same]
      rfl
    · have present' : name ∈ names rest := (List.mem_cons.mp present).resolve_left (Ne.symm same)
      rw [if_neg same, if_neg same, ih later.2 present']
      rfl

theorem erase_eq_revise (name : String) (entries : Entries α) :
    erase name entries = entries.revise (under name fun _ => none) := by
  induction entries with
  | nil => rfl
  | cons entry rest ih =>
    obtain ⟨other, old⟩ := entry
    rw [revise_cons, under, ← ih, erase, List.filter_cons]
    by_cases same : other = name <;> simp [same, erase]

/-- Revisions take names away and leave the order of the others. -/
theorem names_revise_sublist (f : String → α → Option α) (entries : Entries α) :
    (names (entries.revise f)).Sublist (names entries) := by
  induction entries with
  | nil => exact List.Sublist.slnil
  | cons entry rest ih =>
    obtain ⟨name, value⟩ := entry
    rw [revise_cons]
    cases f name value with
    | none => exact ih.cons _
    | some => exact ih.cons_cons _

end MediaMarkup.Entries
