import MediaMarkup.Attribute.Merge
import MediaMarkup.Proofs.CamelNames
import MediaMarkup.Proofs.Entries

/-!
Camel names are stable. What the dashes of a name are joined to has none left to be joined
(`isJoined_camelName`), and such names stay as they are, so that those and the custom ones are all
the names that do (`camelName_eq_self_iff`). Main statement: a camel name is its own camel name, and
a structured style keeps its names and their places however often declarations are merged into it
(`camel_camel_and_keepsNames`).
-/

namespace MediaMarkup

namespace Style

/-- An author's own name, with two dashes in front. -/
def IsCustom (name : List Char) : Prop := ['-', '-'] <+: name

instance (name : List Char) : Decidable (IsCustom name) :=
  inferInstanceAs (Decidable (['-', '-'] <+: name))

/-- A name without a dash in front, and without one that a small letter follows. -/
structure IsJoined (name : List Char) : Prop where
  start : name.head? ≠ some '-'
  noPair : ∀ c, isLower c = true → ¬ ['-', c] <:+: name

variable {cs name property : List Char} {c : Char}

/-! ## No dash is left to be joined -/

theorem isLower_toUpper (small : isLower c = true) : isLower c.toUpper = false :=
  of_isLower (P := fun c => isLower c.toUpper = false) (by decide) small

/-- A small letter in front has been there before: joining puts capitals. -/
theorem head?_of_head?_joinDashes (small : isLower c = true)
    (first : (joinDashes cs).head? = some c) : cs.head? = some c := by
  fun_cases joinDashes cs with
  | case1 d rest lower =>
    rw [joinDashes, if_pos lower, List.head?_cons, Option.some.injEq] at first
    rw [← first, isLower_toUpper lower] at small
    cases small
  | case2 d rest other =>
    rw [joinDashes, if_neg other] at first
    exact first
  | case3 d rest noPair =>
    rw [joinDashes] at first
    · exact first
    · exact noPair
  | case4 => exact first

theorem noPair_joinDashes (cs : List Char) (small : isLower c = true) :
    ¬ ['-', c] <:+: joinDashes cs := by
  fun_induction joinDashes cs with
  | case1 d rest lower ih =>
    rw [List.infix_cons_iff, List.cons_prefix_cons]
    rintro (⟨dash, -⟩ | later)
    · have capital := (isNameChar_of_isLower lower).2
      rw [← dash] at capital
      exact absurd capital (by decide)
    · exact ih later
  | case2 d rest other ih =>
    rw [List.infix_cons_iff, List.cons_prefix_cons]
    rintro (⟨-, starts⟩ | later)
    · -- the letter would have been behind this dash already
      have first : (d :: rest).head? = some c :=
        head?_of_head?_joinDashes small (List.singleton_prefix_iff_head?_eq_some.mp starts)
      rw [List.head?_cons, Option.some.injEq] at first
      exact other (first ▸ small)
    · exact ih later
  | case3 d rest noPair ih =>
    rw [List.infix_cons_iff, List.cons_prefix_cons]
    rintro (⟨dash, starts⟩ | later)
    · cases rest with
      | nil => cases List.prefix_nil.mp starts
      | cons e rest => exact noPair e rest dash.symm rfl
    · exact ih later
  | case4 => simp

theorem joinDashes_of_noPair (noPair : ∀ c, isLower c = true → ¬ ['-', c] <:+: cs) :
    joinDashes cs = cs := by
  fun_induction joinDashes cs with
  | case1 d rest lower ih =>
    exact absurd (List.prefix_append ['-', d] rest).isInfix (noPair d lower)
  | case2 d rest other ih =>
    rw [ih fun c small part => noPair c small (List.infix_cons part)]
  | case3 d rest other ih =>
    rw [ih fun c small part => noPair c small (List.infix_cons part)]
  | case4 => rfl

/-! ## No dash is left in front -/

theorem head?_joinDashes (start : cs.head? ≠ some '-') : (joinDashes cs).head? ≠ some '-' := by
  cases cs with
  | nil => exact start
  | cons c rest =>
    have noDash : '-' ∉ [c] := by simpa [eq_comm] using start
    have kept : joinDashes (c :: rest) = [c] ++ joinDashes rest := joinDashes_append noDash rest
    rw [kept]
    exact start

theorem head?_dropLeadingDash (other : ¬ IsCustom property) :
    (dropLeadingDash property).head? ≠ some '-' := by
  unfold dropLeadingDash
  split
  · simp
  · rename_i c rest _
    have noDash : c ≠ '-' := by
      rintro rfl
      exact other (List.prefix_append ['-', '-'] rest)
    intro first
    rw [List.head?_append_of_ne_nil _ (Text.upper_ne_nil c)] at first
    exact dash_notMem_upper noDash (List.mem_of_mem_head? first)
  · simp
  · rename_i vendor single
    cases property with
    | nil => simp
    | cons c rest =>
      rw [List.head?_cons]
      rintro ⟨⟩
      cases rest with
      | nil => exact single rfl
      | cons next rest => exact vendor next rest rfl

/-! ## Camel names -/

theorem camelName_of_custom (custom : IsCustom property) : camelName property = property := by
  rw [camelName, if_pos (List.isPrefixOf_iff_prefix.mpr custom)]

theorem isJoined_camelName (other : ¬ IsCustom property) : IsJoined (camelName property) := by
  rw [camelName, if_neg (mt List.isPrefixOf_iff_prefix.mp other)]
  exact ⟨head?_joinDashes (head?_dropLeadingDash other), fun _ => noPair_joinDashes _⟩

theorem IsJoined.not_custom (joined : IsJoined name) : ¬ IsCustom name := by
  rintro ⟨rest, rfl⟩
  exact joined.start rfl

theorem IsJoined.camelName_eq (joined : IsJoined name) : camelName name = name := by
  have kept : dropLeadingDash name = name := by
    cases name with
    | nil => rfl
    | cons c rest =>
      have noDash : c ≠ '-' := by simpa using joined.start
      simp [dropLeadingDash, noDash]
  rw [camelName, if_neg (mt List.isPrefixOf_iff_prefix.mp joined.not_custom), kept,
    joinDashes_of_noPair joined.noPair]

theorem isCustom_camelName : IsCustom (camelName property) ↔ IsCustom property := by
  constructor
  · intro custom
    by_contra other
    exact (isJoined_camelName other).not_custom custom
  · intro custom
    rwa [camelName_of_custom custom]

theorem custom_or_isJoined_camelName (property : List Char) :
    IsCustom (camelName property) ∨ IsJoined (camelName property) := by
  by_cases custom : IsCustom property
  · exact .inl (isCustom_camelName.mpr custom)
  · exact .inr (isJoined_camelName custom)

/-- The names that stay as they are: custom ones, and those that have no dash to be joined. -/
theorem camelName_eq_self_iff : camelName name = name ↔ IsCustom name ∨ IsJoined name := by
  constructor
  · exact fun same => same ▸ custom_or_isJoined_camelName name
  · rintro (custom | joined)
    · exact camelName_of_custom custom
    · exact joined.camelName_eq

theorem camel_camel (property : String) : camel (camel property) = camel property := by
  have stays := camelName_eq_self_iff.mpr (custom_or_isJoined_camelName property.toList)
  rw [camel, camel, String.toList_ofList, stays]

end Style

/-! ## Structured styles -/

/-- The names of the properties, each at its first place. -/
def Expression.names (expression : Expression) : List String :=
  Entries.names expression.toEntries

namespace Style

variable {expression : Expression} {declarations : Entries String}
  {merges : List (Entries String)} {name : String}

/-! ### One merge -/

theorem names_mergeExpression (expression : Expression) (declarations : Entries String) :
    (mergeExpression expression declarations).names =
      Entries.names (expression.toEntries.putAll
        (declarations.map fun entry => (camel entry.1, Value.text entry.2))) := by
  have distinct : (Entries.names (mergeExpression expression declarations).properties).Nodup :=
    Entries.nodup_putAll (Entries.nodup_ofList _)
  rw [Expression.names, Expression.toEntries, Entries.ofList_of_nodup distinct]
  rfl

theorem names_camel (declarations : Entries String) :
    Entries.names (declarations.map fun entry => (camel entry.1, Value.text entry.2)) =
      (Entries.names declarations).map camel := by
  rw [Entries.names, List.map_map, Entries.names, List.map_map]
  rfl

theorem names_prefix_mergeExpression (expression : Expression) (declarations : Entries String) :
    expression.names <+: (mergeExpression expression declarations).names := by
  rw [names_mergeExpression]
  exact Entries.names_prefix_putAll _ _

theorem mem_names_mergeExpression : name ∈ (mergeExpression expression declarations).names ↔
    name ∈ expression.names ∨ name ∈ (Entries.names declarations).map camel := by
  rw [names_mergeExpression, Entries.mem_names_putAll, names_camel]
  rfl

theorem names_mergeExpression_of_present
    (present : ∀ property ∈ Entries.names declarations, camel property ∈ expression.names) :
    (mergeExpression expression declarations).names = expression.names := by
  rw [names_mergeExpression]
  apply Entries.names_putAll
  rw [names_camel, List.forall_mem_map]
  exact present

/-! ### Many merges -/

/-- An expression that declarations are merged into time after time. -/
def mergeEach (expression : Expression) (merges : List (Entries String)) : Expression :=
  merges.foldl mergeExpression expression

theorem foldl_merge (expression : Expression) (merges : List (Entries String)) :
    merges.foldl (fun style declarations => merge (some style) declarations)
        (.expression expression) = .expression (mergeEach expression merges) := by
  induction merges generalizing expression with
  | nil => rfl
  | cons declarations rest ih => exact ih (mergeExpression expression declarations)

theorem names_prefix_mergeEach (expression : Expression) (merges : List (Entries String)) :
    expression.names <+: (mergeEach expression merges).names := by
  induction merges generalizing expression with
  | nil => exact List.prefix_refl _
  | cons declarations rest ih =>
    exact (names_prefix_mergeExpression expression declarations).trans (ih _)

theorem mem_names_mergeEach : name ∈ (mergeEach expression merges).names ↔
    name ∈ expression.names ∨
      ∃ declarations ∈ merges, name ∈ (Entries.names declarations).map camel := by
  induction merges generalizing expression with
  | nil => simp [mergeEach]
  | cons declarations rest ih =>
    have step : mergeEach expression (declarations :: rest) =
        mergeEach (mergeExpression expression declarations) rest := rfl
    rw [step, ih, mem_names_mergeExpression, List.exists_mem_cons_iff, or_assoc]

theorem names_mergeEach_of_present (present : ∀ declarations ∈ merges,
      ∀ property ∈ Entries.names declarations, camel property ∈ expression.names) :
    (mergeEach expression merges).names = expression.names := by
  induction merges generalizing expression with
  | nil => rfl
  | cons declarations rest ih =>
    rw [List.forall_mem_cons] at present
    have kept := names_mergeExpression_of_present present.1
    have step : mergeEach expression (declarations :: rest) =
        mergeEach (mergeExpression expression declarations) rest := rfl
    rw [step, ih (kept ▸ present.2), kept]

/-- What becomes of the names of a structured style however often declarations are merged into it:
the names that were there keep their places, all that are new are camel names, and once properties
were merged, no names are added by merging them again, under their own names or under those that
they have got. -/
structure KeepsNames (expression : Expression) (merges : List (Entries String)) : Prop where
  structured : merges.foldl (fun style declarations => merge (some style) declarations)
    (.expression expression) = .expression (mergeEach expression merges)
  places : expression.names <+: (mergeEach expression merges).names
  stable : ∀ name ∈ (mergeEach expression merges).names,
    name ∈ expression.names ∨ camel name = name
  again : ∀ later, (∀ declarations ∈ later, ∀ property ∈ Entries.names declarations,
      ∃ earlier ∈ merges, property ∈ Entries.names earlier ∨
        property ∈ (Entries.names earlier).map camel) →
    (mergeEach expression (merges ++ later)).names = (mergeEach expression merges).names

theorem keepsNames (expression : Expression) (merges : List (Entries String)) :
    KeepsNames expression merges where
  structured := foldl_merge expression merges
  places := names_prefix_mergeEach expression merges
  stable name mem := by
    refine (mem_names_mergeEach.mp mem).imp_right ?_
    rintro ⟨declarations, -, mem⟩
    obtain ⟨property, -, rfl⟩ := List.mem_map.mp mem
    exact camel_camel property
  again later merged := by
    have step : mergeEach expression (merges ++ later) =
        mergeEach (mergeEach expression merges) later := List.foldl_append
    rw [step]
    apply names_mergeEach_of_present
    intro declarations given property mem
    obtain ⟨earlier, before, own | got⟩ := merged declarations given property mem
    · exact mem_names_mergeEach.mpr (.inr ⟨earlier, before, List.mem_map_of_mem own⟩)
    · -- a name that a merge has written is found again under itself
      obtain ⟨first, -, rfl⟩ := List.mem_map.mp got
      rw [camel_camel]
      exact mem_names_mergeEach.mpr (.inr ⟨earlier, before, got⟩)

/-- **Camel names are stable**: a camel name is its own camel name. It is custom just if the
property is, and any other has no dash in front and none before a small letter. So the names of
structured styles stay what they are, whatever is merged into them. -/
theorem camel_camel_and_keepsNames :
    (∀ property : String, camel (camel property) = camel property ∧
      (IsCustom (camel property).toList ↔ IsCustom property.toList) ∧
      (IsCustom (camel property).toList ∨ IsJoined (camel property).toList)) ∧
    ∀ (expression : Expression) (merges : List (Entries String)), KeepsNames expression merges := by
  refine ⟨fun property => ⟨camel_camel property, ?_⟩, keepsNames⟩
  have shown : (camel property).toList = camelName property.toList := String.toList_ofList
  rw [shown]
  exact ⟨isCustom_camelName, custom_or_isJoined_camelName property.toList⟩

/-- A style that has a name with a dash of its own. -/
def dashedStyle : Expression := ⟨[("border", .text "none"), ("margin-top", .null)]⟩

/-- Names of vendors, an author's own name, and a letter with a capital of two. -/
def vendorMerges : List (Entries String) :=
  [[("margin-top", "0"), ("-webkit-box--flex", "1")], [("--accent", "red"), ("-ß-a", "2")]]

/-- The same properties under the names that they have got, and under their own. -/
def vendorMergesAgain : List (Entries String) :=
  [[("SSA", "3"), ("WebkitBox-Flex", "4")], [("-webkit-box--flex", "5"), ("marginTop", "6")]]

theorem camel_camel_and_keepsNames_vendorMerges :
    (mergeEach dashedStyle vendorMerges).names =
        ["border", "margin-top", "marginTop", "WebkitBox-Flex", "--accent", "SSA"] ∧
      (mergeEach dashedStyle (vendorMerges ++ vendorMergesAgain)).names =
        (mergeEach dashedStyle vendorMerges).names ∧
      camel (camel "-ß-a") = "SSA" ∧ IsJoined "SSA".toList := by
  obtain ⟨camels, keeps⟩ := camel_camel_and_keepsNames
  obtain ⟨again, -, joined⟩ := camels "-ß-a"
  have capital : camel "-ß-a" = "SSA" := by decide +kernel
  have merged : ∀ declarations ∈ vendorMergesAgain, ∀ property ∈ Entries.names declarations,
      ∃ earlier ∈ vendorMerges, property ∈ Entries.names earlier ∨
        property ∈ (Entries.names earlier).map camel := by decide +kernel
  rw [capital] at joined
  exact ⟨by decide +kernel, (keeps dashedStyle vendorMerges).again vendorMergesAgain merged,
    again.trans capital, joined.resolve_left (by decide)⟩

end Style

end MediaMarkup
