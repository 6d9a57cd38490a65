import MediaMarkup.Proofs.MergedTwice

/-!
What merging makes of the attributes of an element. An attribute set is written over them entry by
entry, where the text of a class or a style depends on the one that is there (`merged_eq`); so names
keep their places, and new ones come behind them. Main statement: class tokens are united,
declarations take each other's places, every other value is replaced, and that is all
(`mergesByPolicy`).
-/

namespace MediaMarkup

/-- A set of which each entry can be merged in its own way: a class of tokens, a style of
declarations, and texts. -/
structure AttributeSet.Regular (set : AttributeSet) : Prop where
  distinct : (Entries.names set).Nodup
  classes : ∀ value, ("class", value) ∈ set →
    ∃ tokens, value = .tokens tokens ∧ ∀ token ∈ tokens, IsClassToken token
  styles : ∀ value, ("style", value) ∈ set →
    ∃ declarations, value = .declarations declarations ∧ (Entries.names declarations).Nodup ∧
      ∀ declaration ∈ declarations, Style.IsDeclaration declaration
  texts : ∀ name value, (name, value) ∈ set → name ≠ "class" → name ≠ "style" →
    ∃ text, value = .text text

namespace Attributes

/-- The class tokens. -/
def classes (attributes : Attributes) : List String :=
  Classes.split ((attributes.text? "class").getD "")

/-- The new attributes after a set was merged into the old ones. -/
structure MergesByPolicy (set : AttributeSet) (old new : Attributes) : Prop where
  /-- Names keep their places, and new ones come behind in the order of the set. -/
  names_eq : Entries.names new = Entries.names old ++
    (Entries.names (set.filter fun entry => !isSkipped entry.1 entry.2)).filter
      (· ∉ Entries.names old)
  kept : ∀ name, name ∉ Entries.names set → Entries.get? name new = Entries.get? name old
  replaced : ∀ name text, (name, .text text) ∈ set → name ≠ "class" → name ≠ "style" →
    Entries.get? name new = some (.text text)
  classes_eq : ∀ tokens, ("class", .tokens tokens) ∈ set → tokens ≠ [] →
    new.classes = (old.classes ++ tokens).eraseDups
  overrides : ∀ declarations, ("style", .declarations declarations) ∈ set →
    Entries.Overrides declarations old.style new.style
  noTokens : ("class", .tokens []) ∈ set → Entries.get? "class" new = Entries.get? "class" old
  noDeclarations : ("style", .declarations []) ∈ set →
    Entries.get? "style" new = Entries.get? "style" old

/-- The entries that a set writes. -/
def written (set : AttributeSet) (attributes : Attributes) : Attributes :=
  (set.filter fun entry => !isSkipped entry.1 entry.2).map fun entry =>
    (entry.1, .text (mergedText entry.1 entry.2 ((attributes.text? entry.1).getD "")))

variable {attributes : Attributes} {set : AttributeSet} {name : String} {value : Derived}

theorem names_written (set : AttributeSet) (attributes : Attributes) :
    Entries.names (written set attributes) =
      Entries.names (set.filter fun entry => !isSkipped entry.1 entry.2) := by
  rw [written, Entries.names, List.map_map]
  rfl

theorem nodup_names_written (distinct : (Entries.names set).Nodup) :
    (Entries.names (written set attributes)).Nodup := by
  rw [names_written]
  exact distinct.sublist (List.filter_sublist.map _)

/-- What is written under other names does not count. -/
theorem written_put (absent : name ∉ Entries.names set) (value : Attribute) :
    written set (Entries.put name value attributes) = written set attributes := by
  apply List.map_congr_left
  intro entry mem
  have given : entry.1 ∈ Entries.names set := List.mem_map_of_mem (List.mem_filter.mp mem).1
  have ne : entry.1 ≠ name := fun same => absent (same ▸ given)
  rw [text?, text?, Entries.get?_put_of_ne ne]

/-- Merging is writing entries, one after the other. -/
theorem merged_eq (texts : attributes.AreTexts) (distinct : (Entries.names set).Nodup)
    (declared : set.StyleDeclared) :
    attributes.merged set = Entries.putAll attributes (written set attributes) := by
  induction set generalizing attributes with
  | nil => rfl
  | cons entry rest ih =>
    obtain ⟨name, value⟩ := entry
    have later : name ∉ Entries.names rest ∧ (Entries.names rest).Nodup :=
      List.nodup_cons.mp distinct
    have declared' : AttributeSet.StyleDeclared rest :=
      fun value mem => declared value (List.mem_cons_of_mem _ mem)
    have value_eq := mergeValue_eq texts fun isStyle : name = "style" =>
      declared value (isStyle ▸ List.mem_cons_self)
    obtain ⟨next, step, attributes_eq, -⟩ :=
      merge_cons (failure_merge texts.classPlain declared)
    rw [merged, attributes_eq]
    rcases step with ⟨skipped, rfl⟩ | ⟨written', new, new_eq, rfl⟩
    · rw [written, List.filter_cons_of_neg (by simp [skipped])]
      exact ih texts later.2 declared'
    · rw [value_eq, Except.ok.injEq] at new_eq
      subst new_eq
      have texts' : AreTexts (Entries.put name (.text (mergedText name value
          ((attributes.text? name).getD ""))) attributes) := by
        intro entry mem
        rcases Entries.mem_put mem with old | rfl
        · exact texts entry old
        · exact ⟨_, rfl⟩
      have rest_eq := ih texts' later.2 declared'
      rw [merged] at rest_eq
      rw [rest_eq, written_put later.1, written, written,
        List.filter_cons_of_pos (by simp [written'])]
      rfl

end Attributes

namespace AttributeSet.Regular

variable {set : AttributeSet} {attributes : Attributes} {tokens : List String}
  {declarations : Entries String}

theorem isClassToken (regular : set.Regular) (mem : ("class", .tokens tokens) ∈ set) :
    ∀ token ∈ tokens, IsClassToken token := by
  obtain ⟨tokens, same, are⟩ := regular.classes _ mem
  cases same
  exact are

theorem isDeclaration (regular : set.Regular) (mem : ("style", .declarations declarations) ∈ set) :
    (Entries.names declarations).Nodup ∧
      ∀ declaration ∈ declarations, Style.IsDeclaration declaration := by
  obtain ⟨declarations, same, are⟩ := regular.styles _ mem
  cases same
  exact are

theorem declarations_eq (regular : set.Regular)
    (mem : ("style", .declarations declarations) ∈ set) : set.declarations = declarations := by
  rw [AttributeSet.declarations, Entries.get?_of_mem regular.distinct mem]
  rfl

/-- The style of a regular set is empty or given. -/
theorem declarations_cases (regular : set.Regular) :
    set.declarations = [] ∨ ("style", .declarations set.declarations) ∈ set := by
  cases styled : Entries.get? "style" set with
  | none =>
    left
    rw [declarations, styled]
    rfl
  | some value =>
    right
    have mem := Entries.mem_of_get? styled
    obtain ⟨declarations, rfl, -⟩ := regular.styles value mem
    rwa [regular.declarations_eq mem]

theorem mergeable (regular : set.Regular) : set.Mergeable where
  distinct := regular.distinct
  classes value mem := by
    obtain ⟨tokens, rfl, are⟩ := regular.classes value mem
    exact are
  declared value mem := by
    obtain ⟨declarations, same, -⟩ := regular.styles value mem
    exact ⟨declarations, same⟩
  properties := by
    rcases regular.declarations_cases with empty | given
    · rw [empty]
      exact List.nodup_nil
    · exact (regular.isDeclaration given).1

theorem declarations_areDeclarations (regular : set.Regular) :
    ∀ declaration ∈ set.declarations, Style.IsDeclaration declaration := by
  rcases regular.declarations_cases with empty | given
  · simp [empty]
  · exact (regular.isDeclaration given).2

/-- Merging a regular set follows the policy. -/
theorem policy (regular : set.Regular) (texts : attributes.AreTexts) :
    Attributes.MergesByPolicy set attributes (attributes.merged set) where
  names_eq := by
    have distinct : (Entries.names (Attributes.written set attributes)).Nodup :=
      Attributes.nodup_names_written regular.distinct
    rw [Attributes.merged_eq texts regular.distinct regular.mergeable.declared,
      Entries.names_putAll_eq distinct, Attributes.names_written]
  kept name absent := Attributes.get?_merge absent
  replaced name text mem noClass noStyle := by
    have written : Attributes.isSkipped name (.text text) = false := by
      simp [Attributes.isSkipped, noClass, noStyle]
    rw [regular.mergeable.get?_merged texts mem written, Attributes.mergedText, if_neg noClass,
      if_neg noStyle]
    rfl
  classes_eq tokens mem nonempty := by
    have written : Attributes.isSkipped "class" (.tokens tokens) = false := by
      simpa [Attributes.isSkipped, Derived.isEmpty] using nonempty
    have there := regular.mergeable.get?_merged texts mem written
    rw [Attributes.classes, Attributes.text?, there]
    exact Classes.split_merge (regular.isClassToken mem) _
  overrides declarations mem := by
    have given := regular.declarations_eq mem
    have merged := (regular.mergeable.style_merged_iff texts).mpr
      regular.declarations_areDeclarations
    rw [given] at merged
    rw [merged]
    exact Entries.overrides_putAll (regular.isDeclaration mem).1
  noTokens mem := regular.mergeable.get?_merged_of_skipped texts mem rfl
  noDeclarations mem := regular.mergeable.get?_merged_of_skipped texts mem rfl

end AttributeSet.Regular

/-- **The merge policy.** A regular set can be merged into any attributes with texts. Names keep
their places and those that are not in the set their values; a class gets the new tokens behind its
own, each once; declarations override those of their properties in place; every other value is
replaced, and an empty class or style changes nothing. Merging the set again changes nothing
more. -/
theorem mergesByPolicy {set : AttributeSet} (regular : set.Regular) {attributes : Attributes}
    (texts : attributes.AreTexts) :
    (attributes.merge .data set).failure = none ∧
      Attributes.MergesByPolicy set attributes (attributes.merged set) ∧
      ((attributes.merged set).merge .data set).failure = none ∧
      (attributes.merged set).merged set = attributes.merged set := by
  have works := regular.mergeable.failure_merge texts
  have texts' := texts.merged regular.mergeable.declared works
  have stable := Style.mergeText_mergeText regular.mergeable.properties
    (Style.readUnderOwnNames_of_isDeclaration regular.declarations_areDeclarations)
  exact ⟨works, regular.policy texts, regular.mergeable.failure_merge texts',
    regular.mergeable.merged_merged texts stable⟩

/-- A picture with a token twice, stretches that are no declarations, and a property twice. -/
def messyPicture : Attributes :=
  [("class", .text " b  a b"), ("src", .text "dawn.png"), ("id", .text "old"),
    ("style", .text "border; color : red;:x;margin:0;color:url(a:b);")]

def decoratedSet : AttributeSet :=
  [("loading", .text "lazy"), ("class", .tokens ["c", "a", "c"]), ("id", .text "hero"),
    ("style", .declarations [("padding", "2px"), ("color", "blue")])]

theorem mergesByPolicy_messyPicture :
    (decoratedSet.Regular ∧ messyPicture.AreTexts) ∧
      Entries.names (messyPicture.merged decoratedSet) =
        ["class", "src", "id", "style", "loading"] ∧
      (messyPicture.merged decoratedSet).classes = ["b", "a", "c"] ∧
      (messyPicture.merged decoratedSet).text? "style" =
        some "color:blue;margin:0;padding:2px" ∧
      Entries.get? "id" (messyPicture.merged decoratedSet) = some (.text "hero") ∧
      (messyPicture.merged decoratedSet).merged decoratedSet =
        messyPicture.merged decoratedSet := by
  have regular : decoratedSet.Regular := by
    refine ⟨by decide, ?_, ?_, ?_⟩
    · intro value mem
      simp only [decoratedSet, List.mem_cons, Prod.mk.injEq, List.not_mem_nil] at mem
      obtain rfl : value = .tokens ["c", "a", "c"] := by simpa using mem
      refine ⟨_, rfl, fun token mem => ?_⟩
      have tokens : ∀ token ∈ ["c", "a", "c"],
          token ≠ "" ∧ token.toList.all (fun c => !Text.isBlank c) = true := by decide
      refine ⟨(tokens token mem).1, fun c here => ?_⟩
      simpa using List.all_eq_true.mp (tokens token mem).2 c here
    · intro value mem
      simp only [decoratedSet, List.mem_cons, Prod.mk.injEq, List.not_mem_nil] at mem
      obtain rfl : value = .declarations [("padding", "2px"), ("color", "blue")] := by
        simpa using mem
      exact ⟨_, rfl, by decide, by decide⟩
    · intro name value mem noClass noStyle
      simp only [decoratedSet, List.mem_cons, Prod.mk.injEq, List.not_mem_nil, noClass, noStyle,
        false_and, false_or, or_false] at mem
      rcases mem with ⟨-, rfl⟩ | ⟨-, rfl⟩ <;> exact ⟨_, rfl⟩
  have texts : messyPicture.AreTexts := by
    intro entry mem
    simp only [messyPicture, List.mem_cons, List.not_mem_nil, or_false] at mem
    rcases mem with rfl | rfl | rfl | rfl <;> exact ⟨_, rfl⟩
  obtain ⟨-, policy, -, again⟩ := mergesByPolicy regular texts
  refine ⟨⟨regular, texts⟩, policy.names_eq.trans (by decide), ?_, by decide +kernel, ?_, again⟩
  · rw [policy.classes_eq ["c", "a", "c"] (by simp [decoratedSet]) (by decide)]
    decide
  · exact policy.replaced "id" "hero" (by simp [decoratedSet]) (by decide) (by decide)

end MediaMarkup
