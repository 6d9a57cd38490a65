import MediaMarkup.Attribute.Merge
import MediaMarkup.Proofs.Entries
import MediaMarkup.Proofs.Text

/-!
Style texts. What is read from one is made of declarations, trimmed and without separators, and
such declarations are read as they were written (`parse_render_iff`). Whatever else is written may
be read as other declarations, or as none. Merging the same declarations twice changes nothing if
each of them is read under its own property and no other, and only then
(`mergeText_mergeText_iff`).
-/

namespace MediaMarkup.Style

/-- A property as it stands in a style text. -/
structure IsProperty (property : String) : Prop where
  nonempty : property ≠ ""
  trimmed : Text.strip property.toList = property.toList
  noColon : ':' ∉ property.toList
  noSemicolon : ';' ∉ property.toList

/-- A value as it stands in a style text. -/
structure IsValue (value : String) : Prop where
  nonempty : value ≠ ""
  trimmed : Text.strip value.toList = value.toList
  noSemicolon : ';' ∉ value.toList

structure IsDeclaration (declaration : String × String) : Prop where
  property : IsProperty declaration.1
  value : IsValue declaration.2

instance (property : String) : Decidable (IsProperty property) :=
  decidable_of_iff (property ≠ "" ∧ Text.strip property.toList = property.toList ∧
      ':' ∉ property.toList ∧ ';' ∉ property.toList)
    ⟨fun ⟨a, b, c, d⟩ => ⟨a, b, c, d⟩, fun ⟨a, b, c, d⟩ => ⟨a, b, c, d⟩⟩

instance (value : String) : Decidable (IsValue value) :=
  decidable_of_iff (value ≠ "" ∧ Text.strip value.toList = value.toList ∧ ';' ∉ value.toList)
    ⟨fun ⟨a, b, c⟩ => ⟨a, b, c⟩, fun ⟨a, b, c⟩ => ⟨a, b, c⟩⟩

instance (declaration : String × String) : Decidable (IsDeclaration declaration) :=
  decidable_of_iff (IsProperty declaration.1 ∧ IsValue declaration.2)
    ⟨fun ⟨a, b⟩ => ⟨a, b⟩, fun ⟨a, b⟩ => ⟨a, b⟩⟩

/-- What a declaration is read as once it is written. -/
def readBack (declaration : String × String) : Entries String :=
  parse (render [declaration])

variable {declaration : String × String} {declarations : Entries String} {text : String}

/-! ## One declaration -/

theorem isDeclaration_of_declaration? {piece : List Char}
    (read : declaration? piece = some declaration) (whole : ';' ∉ piece) :
    IsDeclaration declaration := by
  unfold declaration? at read
  split at read
  · cases read
  · rename_i property value found
    have parts := Text.eq_of_cut found
    have noColon := Text.notMem_cut ':' piece
    rw [found] at noColon
    dsimp only at read
    split at read
    · cases read
    · rename_i nonempty
      simp only [Bool.or_eq_true, List.isEmpty_iff, not_or] at nonempty
      cases read
      refine ⟨⟨by simpa using nonempty.1, ?_, ?_, ?_⟩, ⟨by simpa using nonempty.2, ?_, ?_⟩⟩
      · rw [String.toList_ofList, Text.strip_strip]
      · rw [String.toList_ofList]
        exact fun mem => noColon (Text.mem_of_mem_strip mem)
      · rw [String.toList_ofList]
        intro mem
        exact whole (parts ▸ List.mem_append_left _ (Text.mem_of_mem_strip mem))
      · rw [String.toList_ofList, Text.strip_strip]
      · rw [String.toList_ofList]
        intro mem
        exact whole (parts ▸ List.mem_append_right _ (List.mem_cons_of_mem _
          (Text.mem_of_mem_strip mem)))

theorem declaration?_renderDeclaration (is : IsDeclaration declaration) :
    declaration? (renderDeclaration declaration) = some declaration := by
  have property := is.property.nonempty
  have value := is.value.nonempty
  rw [declaration?, renderDeclaration, Text.cut_append_cons is.property.noColon]
  dsimp only
  rw [is.property.trimmed, is.value.trimmed, String.ofList_toList, String.ofList_toList, if_neg]
  simpa using ⟨property, value⟩

/-- No semicolon cuts a declaration. -/
theorem IsDeclaration.whole_renderDeclaration (is : IsDeclaration declaration) :
    ∀ c ∈ renderDeclaration declaration, decide (c = ';') = false := by
  intro c mem
  rw [renderDeclaration, List.mem_append, List.mem_cons] at mem
  rw [decide_eq_false_iff_not]
  rintro rfl
  rcases mem with mem | colon | mem
  · exact is.property.noSemicolon mem
  · cases colon
  · exact is.value.noSemicolon mem

theorem isDeclaration_of_pieces {cs : List Char}
    (mem : declaration ∈ (Text.pieces (· = ';') cs).filterMap declaration?) :
    IsDeclaration declaration := by
  obtain ⟨piece, mem, read⟩ := List.mem_filterMap.mp mem
  have whole := Text.whole_of_mem_pieces mem
  exact isDeclaration_of_declaration? read fun here => by simpa using whole ';' here

/-- What a style text is read as is made of declarations. -/
theorem isDeclaration_of_parse (mem : declaration ∈ parse text) : IsDeclaration declaration := by
  rcases Entries.mem_putAll mem with none | read
  · cases none
  · exact isDeclaration_of_pieces read

theorem nodup_parse (text : String) : (Entries.names (parse text)).Nodup :=
  Entries.nodup_ofList _

theorem readBack_eq : readBack declaration =
    .ofList ((Text.pieces (· = ';') (renderDeclaration declaration)).filterMap declaration?) := by
  rw [readBack, parse, render, String.toList_ofList]
  rfl

/-- A declaration is read as it was, and nothing else is. -/
theorem readBack_eq_self_iff :
    readBack declaration = [declaration] ↔ IsDeclaration declaration := by
  constructor
  · intro same
    have here : declaration ∈ readBack declaration := by
      rw [same]
      exact List.mem_singleton_self _
    exact isDeclaration_of_parse here
  · intro is
    rw [readBack_eq, Text.pieces_of_whole is.whole_renderDeclaration, List.filterMap_cons,
      declaration?_renderDeclaration is]
    rfl

/-! ## Several declarations -/

/-- What is written is read one by one. -/
theorem parse_render (declarations : Entries String) :
    parse (render declarations) = .ofList (declarations.flatMap readBack) := by
  have each : readBack = fun declaration => .ofList
      ((Text.pieces (· = ';') (renderDeclaration declaration)).filterMap declaration?) :=
    funext fun _ => readBack_eq
  rw [each, Entries.ofList_flatMap_ofList, parse, render, String.toList_ofList]
  cases declarations with
  | nil => rfl
  | cons first rest =>
    rw [Text.pieces_join (by decide) (by simp), List.flatMap_map, List.filterMap_flatMap]

/-- **Style texts are read as they were written** if what was written is made of declarations, and
only then. -/
theorem parse_render_iff (distinct : (Entries.names declarations).Nodup) :
    parse (render declarations) = declarations ↔ ∀ entry ∈ declarations, IsDeclaration entry := by
  constructor
  · intro same entry mem
    rw [← same] at mem
    exact isDeclaration_of_parse mem
  · intro are
    have alone : declarations.flatMap readBack = declarations.flatMap ([·]) :=
      List.flatMap_congr fun entry mem => readBack_eq_self_iff.mpr (are entry mem)
    rw [parse_render, alone, List.flatMap_singleton', Entries.ofList_of_nodup distinct]

/-- A merged style is read as it was merged if the new declarations are declarations, and only
then. -/
theorem parse_mergeText_iff (distinct : (Entries.names declarations).Nodup) (text : String) :
    parse (mergeText text declarations) = (parse text).putAll declarations ↔
      ∀ entry ∈ declarations, IsDeclaration entry := by
  rw [mergeText, parse_render_iff (Entries.nodup_putAll (nodup_parse text))]
  constructor
  · intro are entry mem
    exact are entry (Entries.mem_of_get? (Entries.get?_putAll_of_mem distinct mem))
  · intro are entry mem
    rcases Entries.mem_putAll mem with old | new
    · exact isDeclaration_of_parse old
    · exact are entry new

/-! ## Merging again -/

/-- Declarations that are read under their own properties, whatever their values are read as. -/
def ReadUnderOwnNames (declarations : Entries String) : Prop :=
  ∀ entry ∈ declarations, Entries.names (readBack entry) = [entry.1]

theorem readUnderOwnNames_of_isDeclaration
    (are : ∀ entry ∈ declarations, IsDeclaration entry) : ReadUnderOwnNames declarations := by
  intro entry mem
  rw [readBack_eq_self_iff.mpr (are entry mem)]
  rfl

/-- Merging again changes nothing: what is read has the names that were written, in their places,
and the values of new properties are written over. -/
theorem mergeText_mergeText (distinct : (Entries.names declarations).Nodup)
    (own : ReadUnderOwnNames declarations) (text : String) :
    mergeText (mergeText text declarations) declarations = mergeText text declarations := by
  have merged : (Entries.names ((parse text).putAll declarations)).Nodup :=
    Entries.nodup_putAll (nodup_parse text)
  -- what was there before is read as it was
  have old {entry : String × String} (mem : entry ∈ (parse text).putAll declarations)
      (other : entry ∉ declarations) : readBack entry = [entry] :=
    readBack_eq_self_iff.mpr (isDeclaration_of_parse ((Entries.mem_putAll mem).resolve_right other))
  have ownNames : ReadUnderOwnNames ((parse text).putAll declarations) := by
    intro entry mem
    by_cases new : entry ∈ declarations
    · exact own entry new
    · rw [old mem new]
      rfl
  have names : Entries.names (((parse text).putAll declarations).flatMap readBack) =
      Entries.names ((parse text).putAll declarations) := by
    rw [Entries.names, List.map_flatMap, Entries.names, List.map_eq_flatMap]
    exact List.flatMap_congr ownNames
  have read : parse (mergeText text declarations) =
      ((parse text).putAll declarations).flatMap readBack := by
    rw [mergeText, parse_render, Entries.ofList_of_nodup (names ▸ merged)]
  have present : ∀ name ∈ Entries.names declarations,
      name ∈ Entries.names (((parse text).putAll declarations).flatMap readBack) :=
    fun name mem => names ▸ Entries.mem_names_putAll.mpr (.inr mem)
  rw [mergeText, read, mergeText]
  congr 1
  refine Entries.ext (Entries.nodup_putAll (names ▸ merged)) ?_ ?_
  · rw [Entries.names_putAll present, names]
  · intro name mem
    rw [Entries.names_putAll present, names] at mem
    by_cases new : name ∈ Entries.names declarations
    · obtain ⟨entry, given, rfl⟩ := List.mem_map.mp new
      rw [Entries.get?_putAll_of_mem distinct given, Entries.get?_putAll_of_mem distinct given]
    · obtain ⟨entry, kept, rfl⟩ := List.mem_map.mp mem
      have other : entry ∉ declarations := fun here => new (List.mem_map_of_mem here)
      rw [Entries.get?_putAll_of_notMem new, Entries.get?_of_mem merged kept]
      apply Entries.get?_of_mem (names ▸ merged)
      exact List.mem_flatMap.mpr ⟨entry, kept, old kept other ▸ List.mem_singleton_self _⟩

/-! ### Declarations that are not stable -/

/-- What is written behind a declaration that others follow. -/
def following : Entries String → List Char
  | [] => []
  | next :: rest => ';' :: (render (next :: rest)).toList

theorem toList_render_cons (declaration : String × String) (rest : Entries String) :
    (render (declaration :: rest)).toList =
      declaration.1.toList ++ ':' :: (declaration.2.toList ++ following rest) := by
  cases rest <;> simp [render, renderDeclaration, Text.join, following]

/-- A text that starts with a declaration shows its property. -/
theorem eq_of_render {entry entry' : String × String} {rest rest' : Entries String}
    (isProperty : IsProperty entry.1) (isProperty' : IsProperty entry'.1)
    (same : render (entry :: rest) = render (entry' :: rest')) : entry.1 = entry'.1 := by
  have cut := Text.cut_append_cons isProperty.noColon (entry.2.toList ++ following rest)
  rw [← toList_render_cons, same, toList_render_cons,
    Text.cut_append_cons isProperty'.noColon] at cut
  exact String.toList_inj.mp (congrArg Prod.fst cut).symm

/-- What stands behind the same declaration is the same. -/
theorem render_tail {entry next : String × String} {rest rest' : Entries String}
    (same : render (entry :: next :: rest) = render (entry :: rest')) :
    ∃ next' rest'', rest' = next' :: rest'' ∧ render (next :: rest) = render (next' :: rest'') := by
  have shown := congrArg String.toList same
  rw [toList_render_cons, toList_render_cons, List.append_cancel_left_eq, List.cons.injEq,
    List.append_cancel_left_eq] at shown
  cases rest' with
  | nil => cases shown.2
  | cons next' rest'' =>
    exact ⟨next', rest'', rfl, String.toList_inj.mp (List.cons.inj shown.2).2⟩

/-- Entries that are written as others are have the same two properties in front. -/
theorem names_of_render {entry next : String × String} {rest entries : Entries String}
    (isProperty : IsProperty entry.1 ∧ IsProperty next.1)
    (properties : ∀ other ∈ entries, IsProperty other.1)
    (given : Entries.get? entry.1 entries = some entry.2)
    (same : render entries = render (entry :: next :: rest)) :
    ∃ names, Entries.names entries = entry.1 :: next.1 :: names := by
  cases entries with
  | nil => cases given
  | cons first rest' =>
    have name : first.1 = entry.1 :=
      eq_of_render (properties first List.mem_cons_self) isProperty.1 same
    obtain rfl : first = entry := by
      rw [Entries.get?, if_pos name, Option.some.injEq] at given
      exact Prod.ext name given
    obtain ⟨second, rest'', rfl, tails⟩ := render_tail same.symm
    have name' : next.1 = second.1 :=
      eq_of_render isProperty.2 (properties second (by simp)) tails
    exact ⟨Entries.names rest'', by rw [name']; rfl⟩

/-- There is always another property. -/
theorem exists_property (avoided : List String) :
    ∃ property, IsProperty property ∧ property ∉ avoided := by
  have letters {n : Nat} : ∀ c ∈ List.replicate n 'z', c = 'z' := fun c => List.eq_of_mem_replicate
  refine ⟨.ofList (List.replicate ((avoided.map String.toList).flatten.length + 1) 'z'),
    ⟨?_, ?_, ?_, ?_⟩, ?_⟩
  · simp
  · rw [String.toList_ofList]
    exact Text.strip_of_noBlank fun c mem => letters c mem ▸ by decide
  · simp
  · simp
  · intro mem
    have part := List.mem_map_of_mem (f := String.toList) mem
    have short := (List.sublist_flatten_of_mem part).length_le
    rw [String.toList_ofList, List.length_replicate] at short
    omega

/-- Two properties in front keep their places; the first one takes its new value. -/
theorem exists_putAll_pair (distinct : (Entries.names declarations).Nodup)
    {entry : String × String} (mem : entry ∈ declarations) {other : String}
    (fresh : other ∉ Entries.names declarations) :
    ∃ rest, Entries.putAll [(entry.1, "0"), (other, "0")] declarations =
      entry :: (other, "0") :: rest := by
  have ne : entry.1 ≠ other := fun same => fresh (same ▸ List.mem_map_of_mem mem)
  have starts : [entry.1, other] <+:
      Entries.names (Entries.putAll [(entry.1, "0"), (other, "0")] declarations) :=
    Entries.names_prefix_putAll [(entry.1, "0"), (other, "0")] declarations
  have given : Entries.get? entry.1 (Entries.putAll [(entry.1, "0"), (other, "0")] declarations) =
      some entry.2 := Entries.get?_putAll_of_mem distinct mem
  have kept : Entries.get? other (Entries.putAll [(entry.1, "0"), (other, "0")] declarations) =
      some "0" := by
    rw [Entries.get?_putAll_of_notMem fresh]
    simp [Entries.get?, ne]
  obtain ⟨value, rest, merged, later⟩ := Entries.cons_of_prefix starts
  obtain ⟨value', rest, rfl, -⟩ := Entries.cons_of_prefix later
  rw [merged] at given kept ⊢
  simp only [Entries.get?, ne, ↓reduceIte, Option.some.injEq] at given kept
  exact ⟨rest, by rw [given, kept]⟩

/-- What is read starts with what the first declaration is read as. -/
theorem names_prefix_render (entry : String × String) (rest : Entries String) :
    Entries.names (readBack entry) <+: Entries.names (parse (render (entry :: rest))) := by
  have alone : Entries.ofList (readBack entry) = readBack entry :=
    Entries.ofList_of_nodup (nodup_parse _)
  rw [parse_render, List.flatMap_cons, Entries.ofList, Entries.putAll_append, ← Entries.ofList,
    alone]
  exact Entries.names_prefix_putAll _ _

/-- Two properties are read in their places, but the first one is read as others: that cannot be. -/
theorem names_readBack_of_prefix {entry next : String × String} {rest : Entries String}
    {names : List String} (isDeclaration : IsDeclaration next) (ne : entry.1 ≠ next.1)
    (fresh : next.1 ∉ Entries.names (readBack entry))
    (places : Entries.names (parse (render (entry :: next :: rest))) <+:
      entry.1 :: next.1 :: names) : Entries.names (readBack entry) = [entry.1] := by
  have starts := (names_prefix_render entry (next :: rest)).trans places
  cases first : Entries.names (readBack entry) with
  | nil =>
    have nothing : readBack entry = [] := List.map_eq_nil_iff.mp first
    have later := names_prefix_render next rest
    rw [parse_render, readBack_eq_self_iff.mpr isDeclaration] at later
    rw [parse_render, List.flatMap_cons, nothing, List.nil_append] at places
    have here : [next.1] <+: entry.1 :: next.1 :: names := later.trans places
    exact absurd (List.cons_prefix_cons.mp here).1 (Ne.symm ne)
  | cons name more =>
    rw [first] at starts fresh
    obtain ⟨rfl, behind⟩ := List.cons_prefix_cons.mp starts
    cases more with
    | nil => rfl
    | cons name more =>
      obtain ⟨rfl, -⟩ := List.cons_prefix_cons.mp behind
      simp at fresh

/-- Where merging again never changes anything, every new declaration is read under its own
property. The style that shows it has that property first and another one behind it. -/
theorem readUnderOwnNames_of_stable (distinct : (Entries.names declarations).Nodup)
    (properties : ∀ entry ∈ declarations, IsProperty entry.1)
    (stable : ∀ text, mergeText (mergeText text declarations) declarations =
      mergeText text declarations) : ReadUnderOwnNames declarations := by
  intro entry mem
  obtain ⟨other, isProperty, fresh⟩ :=
    exists_property (Entries.names declarations ++ Entries.names (readBack entry))
  rw [List.mem_append, not_or] at fresh
  have here : entry.1 ∈ Entries.names declarations := List.mem_map_of_mem mem
  have ne : entry.1 ≠ other := fun same => fresh.1 (same ▸ here)
  have zero : IsValue "0" := by decide
  have old : parse (render [(entry.1, "0"), (other, "0")]) = [(entry.1, "0"), (other, "0")] := by
    rw [parse_render_iff (by simp [Entries.names, ne])]
    simpa using ⟨⟨properties entry mem, zero⟩, ⟨isProperty, zero⟩⟩
  obtain ⟨rest, merged⟩ := exists_putAll_pair distinct mem fresh.1
  have once : mergeText (render [(entry.1, "0"), (other, "0")]) declarations =
      render (entry :: (other, "0") :: rest) := by
    rw [mergeText, old, merged]
  have again := stable (render [(entry.1, "0"), (other, "0")])
  rw [once, mergeText] at again
  generalize read : parse (render (entry :: (other, "0") :: rest)) = entries at again
  have places : ∃ names,
      Entries.names (entries.putAll declarations) = entry.1 :: other :: names := by
    refine names_of_render ⟨properties entry mem, isProperty⟩ ?_
      (Entries.get?_putAll_of_mem distinct mem) again
    intro entry mem
    rcases Entries.mem_putAll mem with old | new
    · exact (isDeclaration_of_parse (read ▸ old)).property
    · exact properties entry new
  obtain ⟨names, places⟩ := places
  have kept := Entries.names_prefix_putAll entries declarations
  rw [places, ← read] at kept
  exact names_readBack_of_prefix ⟨isProperty, zero⟩ ne fresh.2 kept

/-- **Merging declarations twice** is merging them once, into whatever style, if each of them is
read under its own property, and only then. -/
theorem mergeText_mergeText_iff (distinct : (Entries.names declarations).Nodup)
    (properties : ∀ entry ∈ declarations, IsProperty entry.1) :
    (∀ text, mergeText (mergeText text declarations) declarations = mergeText text declarations) ↔
      ReadUnderOwnNames declarations :=
  ⟨readUnderOwnNames_of_stable distinct properties, mergeText_mergeText distinct⟩

end MediaMarkup.Style
