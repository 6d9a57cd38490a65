import MediaMarkup.Proofs.StyleText
import MediaMarkup.Proofs.TitleClasses
import MediaMarkup.Proofs.TitleSizes

/-!
Merging the attributes of a title twice. A class takes each token once, and every attribute but
class and style holds the same text again. The style is written as a text and read again for the
second merge, so that it depends on the declarations that the title gives: those under `style` are
read from a text, while a width or a height that is no size becomes a declaration as it is
(`mergesStably_iff`).
-/

namespace MediaMarkup

/-! ## Classes -/

namespace Classes

variable {tokens new : List String}

theorem split_join (are : ∀ token ∈ tokens, IsClassToken token) : split (join tokens) = tokens := by
  have areWords : ∀ word ∈ tokens.map String.toList,
      word ≠ [] ∧ ∀ c ∈ word, Text.isBlank c = false := by
    intro word mem
    obtain ⟨token, given, rfl⟩ := List.mem_map.mp mem
    exact ⟨by simpa using (are token given).nonempty, (are token given).noBlank⟩
  rw [split, join, String.toList_ofList, Text.words_join (by decide) areWords, List.map_map]
  exact List.map_id'' (fun _ => String.ofList_toList) tokens

theorem distinct_eq (tokens : List String) : distinct tokens = tokens.eraseDups := by
  induction tokens using List.reverseRecOn with
  | nil => rfl
  | append_singleton tokens token ih =>
    rw [distinct, List.foldl_append, ← distinct, ih, List.eraseDups_append]
    by_cases mem : token ∈ tokens <;>
      simp [List.removeAll, mem, List.eraseDups_cons]

/-- Tokens that are there already are not added again. -/
theorem eraseDups_append_of_subset (there : new ⊆ tokens) :
    (tokens.eraseDups ++ new).eraseDups = tokens.eraseDups := by
  have once (tokens : List String) : tokens.eraseDups.eraseDups = tokens.eraseDups := by
    induction tokens using List.reverseRecOn with
    | nil => rfl
    | append_singleton tokens token ih =>
      rw [List.eraseDups_append]
      by_cases mem : token ∈ tokens
      · simpa [List.removeAll, mem] using ih
      · have kept : [token].removeAll tokens = [token] := by simp [List.removeAll, mem]
        have kept' : [token].removeAll tokens.eraseDups = [token] := by simp [List.removeAll, mem]
        have alone : [token].eraseDups = [token] := by simp [List.eraseDups_cons]
        rw [kept, alone, List.eraseDups_append, ih, kept', alone]
  have none : new.removeAll tokens.eraseDups = [] := by
    simpa [List.removeAll, List.filter_eq_nil_iff] using fun token mem => there mem
  rw [List.eraseDups_append, once, none]
  simp

/-- A merged class is read as its tokens and the new ones, each once. -/
theorem split_merge (are : ∀ token ∈ new, IsClassToken token) (existing : String) :
    split (merge existing new) = (split existing ++ new).eraseDups := by
  have all : ∀ token ∈ (split existing ++ new).eraseDups, IsClassToken token := by
    intro token mem
    rw [List.mem_eraseDups, List.mem_append] at mem
    exact mem.elim Directive.isClassToken_of_split (are token)
  rw [merge, distinct_eq, split_join all]

theorem merge_merge (are : ∀ token ∈ new, IsClassToken token) (existing : String) :
    merge (merge existing new) new = merge existing new := by
  have read := split_merge are existing
  rw [merge, read, distinct_eq, eraseDups_append_of_subset (List.subset_append_right _ _), merge,
    distinct_eq]

end Classes

/-! ## Attributes -/

def Derived.declared : Derived → Entries String
  | .declarations entries => entries
  | _ => []

namespace Attributes

/-- Every attribute has a text. -/
def AreTexts (attributes : Attributes) : Prop :=
  ∀ entry ∈ attributes, ∃ text, entry.2.text? = some text

/-- The attributes that a merge leaves. -/
def merged (set : AttributeSet) (attributes : Attributes) : Attributes :=
  (attributes.merge .data set).attributes

/-- The declarations of the style. -/
def style (attributes : Attributes) : Entries String :=
  Style.parse ((attributes.text? "style").getD "")

/-- The text that an attribute is to have after the text that it has. -/
def mergedText (name : String) (value : Derived) (old : String) : String :=
  if name = "class" then Classes.merge old value.classTokens
  else if name = "style" then Style.mergeText old value.declared
  else value.plainText

variable {attributes : Attributes} {set : AttributeSet} {name : String} {value : Derived}

theorem AreTexts.classPlain (texts : attributes.AreTexts) : attributes.ClassPlain := by
  intro expression present
  obtain ⟨text, none⟩ := texts _ (Entries.mem_of_get? present)
  cases none

/-- Among texts a value comes to a text. -/
theorem mergeValue_eq (texts : attributes.AreTexts)
    (declared : name = "style" → ∃ declarations, value = .declarations declarations) :
    mergeValue name value attributes =
      .ok (.text (mergedText name value ((attributes.text? name).getD ""))) := by
  have old (name : String) : Entries.get? name attributes = none ∨
      Entries.get? name attributes = some .bare ∨
      ∃ text, Entries.get? name attributes = some (.text text) := by
    cases present : Entries.get? name attributes with
    | none => exact .inl rfl
    | some old =>
      obtain ⟨text, is⟩ := texts _ (Entries.mem_of_get? present)
      cases old with
      | text text => exact .inr (.inr ⟨text, rfl⟩)
      | bare => exact .inr (.inl rfl)
      | expression => cases is
  unfold mergeValue mergedText
  split
  · rename_i isClass
    subst isClass
    rcases old "class" with there | there | ⟨text, there⟩ <;>
      simp [mergeClass, text?, there, Attribute.text?]
  · split
    · rename_i isStyle
      subst isStyle
      obtain ⟨declarations, rfl⟩ := declared rfl
      rcases old "style" with there | there | ⟨text, there⟩ <;>
        simp [mergeStyle, Style.merge, Derived.declared, text?, there, Attribute.text?]
    · rfl

theorem AreTexts.merged (texts : attributes.AreTexts) (declared : set.StyleDeclared)
    (works : (attributes.merge .data set).failure = none) : (attributes.merged set).AreTexts := by
  unfold Attributes.merged
  induction set generalizing attributes with
  | nil => exact texts
  | cons entry rest ih =>
    obtain ⟨name, value⟩ := entry
    obtain ⟨next, step, attributes_eq, works⟩ := merge_cons works
    rw [attributes_eq]
    refine ih ?_ (fun value mem => declared value (List.mem_cons_of_mem _ mem)) works
    rcases step with ⟨-, rfl⟩ | ⟨-, new, value_eq, rfl⟩
    · exact texts
    · intro entry mem
      rcases Entries.mem_put mem with old | rfl
      · exact texts entry old
      · rw [mergeValue_eq texts fun isStyle => declared value (isStyle ▸ List.mem_cons_self),
          Except.ok.injEq] at value_eq
        rw [← value_eq]
        exact ⟨_, rfl⟩

/-- A merge that would write what is there changes nothing. -/
theorem merge_of_present (present : ∀ name value, (name, value) ∈ set →
      isSkipped name value = false → ∃ new, mergeValue name value attributes = .ok new ∧
        Entries.get? name attributes = some new) : attributes.merged set = attributes := by
  rw [merged]
  induction set with
  | nil => rfl
  | cons entry rest ih =>
    obtain ⟨name, value⟩ := entry
    have later := ih fun name value mem => present name value (List.mem_cons_of_mem _ mem)
    rw [merge]
    split
    · exact later
    · rename_i written
      obtain ⟨new, value_eq, there⟩ :=
        present name value List.mem_cons_self (Bool.not_eq_true _ ▸ written)
      rw [mergeEntry_data, value_eq, Except.map, Entries.put_of_get? there]
      exact later

end Attributes

/-! ## Attribute sets -/

namespace AttributeSet

/-- The declarations of the style in a set. -/
def declarations (set : AttributeSet) : Entries String :=
  ((Entries.get? "style" set).map Derived.declared).getD []

/-- A set as it is meant to be merged: no name comes twice, the class is made of tokens, and the
style of declarations with distinct properties. -/
structure Mergeable (set : AttributeSet) : Prop where
  distinct : (Entries.names set).Nodup
  classes : ∀ value, ("class", value) ∈ set → ∀ token ∈ value.classTokens, IsClassToken token
  declared : set.StyleDeclared
  properties : (Entries.names set.declarations).Nodup

variable {set : AttributeSet} {attributes : Attributes} {name : String} {value : Derived}

theorem Mergeable.failure_merge (mergeable : set.Mergeable) (texts : attributes.AreTexts) :
    (attributes.merge .data set).failure = none :=
  Attributes.failure_merge texts.classPlain mergeable.declared

theorem Mergeable.declared_eq (mergeable : set.Mergeable) (mem : ("style", value) ∈ set) :
    value.declared = set.declarations := by
  rw [declarations, Entries.get?_of_mem mergeable.distinct mem]
  rfl

/-- An attribute with a value that is not skipped holds the text that it is to have. -/
theorem Mergeable.get?_merged (mergeable : set.Mergeable) (texts : attributes.AreTexts)
    (mem : (name, value) ∈ set) (written : Attributes.isSkipped name value = false) :
    Entries.get? name (attributes.merged set) =
      some (.text (Attributes.mergedText name value ((attributes.text? name).getD ""))) := by
  rcases Attributes.get?_merge_of_mem mergeable.distinct mem (mergeable.failure_merge texts) with
    ⟨skipped, -⟩ | ⟨-, new, value_eq, there⟩
  · rw [written] at skipped
    cases skipped
  · rw [Attributes.mergeValue_eq texts fun isStyle => mergeable.declared value (isStyle ▸ mem),
      Except.ok.injEq] at value_eq
    rw [value_eq]
    exact there

/-- An empty class or style leaves the attribute as it was. -/
theorem Mergeable.get?_merged_of_skipped (mergeable : set.Mergeable) (texts : attributes.AreTexts)
    (mem : (name, value) ∈ set) (skipped : Attributes.isSkipped name value = true) :
    Entries.get? name (attributes.merged set) = Entries.get? name attributes := by
  rcases Attributes.get?_merge_of_mem mergeable.distinct mem (mergeable.failure_merge texts) with
    ⟨-, kept⟩ | ⟨written, -⟩
  · exact kept
  · rw [skipped] at written
    cases written

/-- Merging again changes nothing if the style is stable. -/
theorem Mergeable.merged_merged (mergeable : set.Mergeable) (texts : attributes.AreTexts)
    (stable : ∀ text, Style.mergeText (Style.mergeText text set.declarations) set.declarations =
      Style.mergeText text set.declarations) :
    (attributes.merged set).merged set = attributes.merged set := by
  apply Attributes.merge_of_present
  intro name value mem written
  have there := mergeable.get?_merged texts mem written
  have texts' := texts.merged mergeable.declared (mergeable.failure_merge texts)
  refine ⟨_, Attributes.mergeValue_eq texts' fun isStyle =>
    mergeable.declared value (isStyle ▸ mem), ?_⟩
  have text : (attributes.merged set).text? name =
      some (Attributes.mergedText name value ((attributes.text? name).getD "")) := by
    rw [Attributes.text?, there]
    rfl
  rw [there, text, Option.getD_some]
  generalize (attributes.text? name).getD "" = old
  unfold Attributes.mergedText
  split
  · rename_i isClass
    subst isClass
    rw [Classes.merge_merge (mergeable.classes value mem)]
  · split
    · rename_i isStyle
      subst isStyle
      rw [mergeable.declared_eq mem, stable]
    · rfl

/-- The style that a merge leaves. -/
theorem Mergeable.text?_style (mergeable : set.Mergeable) (texts : attributes.AreTexts) :
    (attributes.merged set).text? "style" =
      if set.declarations = [] then attributes.text? "style"
      else some (Style.mergeText ((attributes.text? "style").getD "") set.declarations) := by
  cases styled : Entries.get? "style" set with
  | none =>
    have empty : set.declarations = [] := by
      rw [declarations, styled]
      rfl
    have absent : "style" ∉ Entries.names set := by
      rw [← Entries.isSome_get?, styled]
      exact Bool.false_ne_true
    rw [if_pos empty]
    exact Attributes.text?_merge absent
  | some value =>
    have mem := Entries.mem_of_get? styled
    obtain ⟨entries, rfl⟩ := mergeable.declared value mem
    have given : entries = set.declarations := mergeable.declared_eq mem
    subst given
    split
    · rename_i empty
      have skipped : Attributes.isSkipped "style" (.declarations set.declarations) = true := by
        rw [empty]
        rfl
      exact congrArg (Option.bind · Attribute.text?)
        (mergeable.get?_merged_of_skipped texts mem skipped)
    · rename_i nonempty
      have written : Attributes.isSkipped "style" (.declarations set.declarations) = false := by
        simpa [Attributes.isSkipped, Derived.isEmpty] using nonempty
      rw [Attributes.text?, mergeable.get?_merged texts mem written]
      rfl

/-- The style is read as it was merged if the set gives declarations, and only then. -/
theorem Mergeable.style_merged_iff (mergeable : set.Mergeable) (texts : attributes.AreTexts) :
    (attributes.merged set).style = attributes.style.putAll set.declarations ↔
      ∀ declaration ∈ set.declarations, Style.IsDeclaration declaration := by
  rw [Attributes.style, mergeable.text?_style texts]
  split
  · rename_i empty
    rw [empty]
    exact iff_of_true rfl (by simp)
  · rw [Option.getD_some, Attributes.style, Style.parse_mergeText_iff mergeable.properties]

/-- Merging again changes nothing, whatever the attributes, if the declarations are read under their
own names, and only then. -/
theorem Mergeable.merged_merged_iff (mergeable : set.Mergeable)
    (named : ∀ declaration ∈ set.declarations, Style.IsProperty declaration.1) :
    (∀ attributes : Attributes, attributes.AreTexts →
        (attributes.merged set).merged set = attributes.merged set) ↔
      Style.ReadUnderOwnNames set.declarations := by
  rw [← Style.mergeText_mergeText_iff mergeable.properties named]
  constructor
  · intro again text
    by_cases empty : set.declarations = []
    · rw [empty]
      exact Style.mergeText_mergeText (by simp [Entries.names]) (by rintro entry ⟨⟩) text
    · have texts : Attributes.AreTexts [("style", .text text)] := by
        intro entry mem
        rw [List.mem_singleton.mp mem]
        exact ⟨text, rfl⟩
      have texts' := texts.merged mergeable.declared (mergeable.failure_merge texts)
      have once := mergeable.text?_style texts
      have twice := mergeable.text?_style texts'
      rw [again _ texts, once, if_neg empty, if_neg empty] at twice
      exact (Option.some.inj twice).symm
  · intro stable attributes texts
    exact mergeable.merged_merged texts stable

end AttributeSet

/-! ## Declarations of titles -/

/-- The declarations that a directive gives: those in a value of `style`, and a width or a height
with its value as it is. -/
inductive Directive.Declares : Directive → String × String → Prop
  | style {value : String} {declaration : String × String}
    (mem : declaration ∈ Style.parse (Reading.spaced value)) :
    Declares (.pair "style" value) declaration
  | side {name value : String} (side : name ∈ sides) :
    Declares (.pair name value) (name, Reading.spaced value)

theorem Directive.Declares.isProperty {directive : Directive} {declaration : String × String}
    (declares : directive.Declares declaration) : Style.IsProperty declaration.1 := by
  cases declares with
  | style mem => exact (Style.isDeclaration_of_parse mem).property
  | side side =>
    have isProperty : ∀ name ∈ sides, Style.IsProperty name := by decide
    exact isProperty _ side

/-- Declarations among the effects of a directive are those that it gives. -/
theorem Reading.declares_ofDirective {kind : String} {sized : Bool} {directive : Directive}
    {effect : Effect} (mem : effect ∈ (ofDirective kind sized directive).effectsOf)
    (isStyle : effect.category = .style) : directive.Declares (effect.name, effect.value) := by
  unfold ofDirective at mem
  split at mem
  · cases mem
  · split at mem
    · exact absurd (category_ofMarked mem) (by simp [isStyle])
    · cases directive with
      | flag key => exact absurd (category_ofFlag mem) (by simp [isStyle])
      | unset key => exact absurd (category_ofUnset mem) (by simp [isStyle])
      | pair key value =>
        cases ofPair_cases mem with
        | style styled given =>
          rw [styled]
          exact .style given
        | length side => exact .side (by simpa [sides] using side)
        | token | size | plain => cases isStyle

namespace AttributeSet

variable {set next : AttributeSet} {effects : List Effect} {effect : Effect}

/-- Declarations in a set are certain effects, and no property comes twice. -/
def DeclarationsOf (effects : List Effect) (set : AttributeSet) : Prop :=
  ∀ name entries, (name, .declarations entries) ∈ set →
    (Entries.names entries).Nodup ∧
      ∀ declaration ∈ entries, ⟨.style, declaration.1, declaration.2⟩ ∈ effects

theorem DeclarationsOf.put (declared : set.DeclarationsOf effects) {name : String} {value : Derived}
    (new : ∀ entries, value = .declarations entries → (Entries.names entries).Nodup ∧
      ∀ declaration ∈ entries, ⟨.style, declaration.1, declaration.2⟩ ∈ effects) :
    DeclarationsOf effects (Entries.put name value set) := by
  intro other entries mem
  rcases Entries.mem_put mem with old | same
  · exact declared other entries old
  · cases same
    exact new entries rfl

theorem DeclarationsOf.add (declared : set.DeclarationsOf effects) (given : effect ∈ effects)
    (added : AttributeSet.add effect set = .ok next) : next.DeclarationsOf effects := by
  have here (isStyle : effect.category = .style) :
      ⟨.style, effect.name, effect.value⟩ ∈ effects := isStyle ▸ given
  cases adds_of_add added with
  | listed | unnoticed => exact declared
  | token | firstToken | text => exact declared.put (by rintro entries ⟨⟩)
  | @declaration isStyle entries present =>
    obtain ⟨distinct, old⟩ := declared "style" entries (Entries.mem_of_get? present)
    apply declared.put
    rintro grown ⟨⟩
    refine ⟨Entries.nodup_put distinct, fun declaration mem => ?_⟩
    rcases Entries.mem_put mem with mem | rfl
    · exact old declaration mem
    · exact here isStyle
  | firstDeclaration isStyle =>
    apply declared.put
    rintro entries ⟨⟩
    refine ⟨by simp [Entries.names], fun declaration mem => ?_⟩
    rw [List.mem_singleton.mp mem]
    exact here isStyle

theorem declarationsOf_collect (collected : collect effects = .ok set) :
    set.DeclarationsOf effects :=
  foldlM_keeps collected (fun _ mem _ _ added declared => declared.add mem added)
    (by rintro name entries ⟨⟩)

variable {kind : String} {title : Option String}

/-- The attribute set of a title is as it is meant to be merged. -/
theorem mergeable_of_collected (collected : Title.collected kind title = .ok set) :
    set.Mergeable := by
  obtain ⟨read, folded⟩ := Directive.effects_of_collected collected
  have distinct := nodup_collect folded
  have declared : set.StyleDeclared := styleDeclared_collect folded fun effect mem => by
    obtain ⟨directive, -, causes⟩ := Reading.causes_all mem
    exact causes.declares
  refine ⟨distinct, fun value mem token listed => ?_, declared, ?_⟩
  · have entry := Directive.class_of_collected Directive.isTitled_of_parse? collected
    rw [Entries.get?_of_mem distinct mem] at entry
    split at entry
    · cases entry
      cases listed
    · split at entry
      · cases entry
      · cases entry
        rw [Derived.classTokens, List.mem_eraseDups, List.mem_flatMap] at listed
        obtain ⟨directive, given, listed⟩ := listed
        exact Directive.isClassToken_of_classTokens (Directive.isValidKey_of_parse? given) listed
  · rw [declarations]
    cases styled : Entries.get? "style" set with
    | none => exact List.nodup_nil
    | some value =>
      have mem := Entries.mem_of_get? styled
      obtain ⟨entries, rfl⟩ := declared value mem
      exact (declarationsOf_collect folded "style" entries mem).1

/-- Every declaration of a title is given by one of its directives. -/
theorem declares_of_collected (collected : Title.collected kind title = .ok set) :
    ∀ declaration ∈ set.declarations,
      ∃ directive ∈ (Title.parse? title).directives, directive.Declares declaration := by
  obtain ⟨read, folded⟩ := Directive.effects_of_collected collected
  have declares : ∀ effect ∈ (Directive.readings kind (Title.parse? title).directives).flatMap
      Reading.effectsOf, effect.category = .style →
        ∃ directive ∈ (Title.parse? title).directives,
          directive.Declares (effect.name, effect.value) :=
    Reading.forall_all kind false Directive.isTitled_of_parse?
      fun sized directive given effect mem isStyle =>
        ⟨directive, given, Reading.declares_ofDirective mem isStyle⟩
  intro declaration mem
  rw [declarations] at mem
  cases styled : Entries.get? "style" set with
  | none =>
    rw [styled] at mem
    cases mem
  | some value =>
    rw [styled] at mem
    cases value with
    | text | tokens => cases mem
    | declarations entries =>
      have given := (declarationsOf_collect folded "style" entries (Entries.mem_of_get? styled)).2
      exact declares _ (given declaration mem) rfl

/-- A set that merges stably: merging it again changes nothing, and the style is read as it was
merged. -/
structure MergesStably (set : AttributeSet) : Prop where
  again : ∀ attributes : Attributes, attributes.AreTexts →
    (attributes.merged set).merged set = attributes.merged set
  readBack : ∀ attributes : Attributes, attributes.AreTexts →
    (attributes.merged set).style = attributes.style.putAll set.declarations

end AttributeSet

/-- **Merging the attributes of a title twice.** A title whose attributes are collected can be
merged into any attributes with texts, and again. It merges stably if all its declarations are
trimmed and without separators, and only then; merging it again changes nothing if they are read
under their own names, and only then. The only ones that may not be so are a width or a height with
its value as it is. -/
theorem mergesStably_iff {kind : String} {title : Option String} {set : AttributeSet}
    (collected : Title.collected kind title = .ok set) :
    (∀ attributes : Attributes, attributes.AreTexts →
      (attributes.merge .data set).failure = none ∧
        ((attributes.merged set).merge .data set).failure = none) ∧
    (set.MergesStably ↔ ∀ declaration ∈ set.declarations, Style.IsDeclaration declaration) ∧
    ((∀ attributes : Attributes, attributes.AreTexts →
        (attributes.merged set).merged set = attributes.merged set) ↔
      Style.ReadUnderOwnNames set.declarations) ∧
    ∀ declaration ∈ set.declarations, Style.IsDeclaration declaration ∨
      ∃ value, .pair declaration.1 value ∈ (Title.parse? title).directives ∧
        declaration.1 ∈ sides ∧ declaration.2 = Reading.spaced value := by
  have mergeable := AttributeSet.mergeable_of_collected collected
  have declares := AttributeSet.declares_of_collected collected
  have named : ∀ declaration ∈ set.declarations, Style.IsProperty declaration.1 := by
    intro declaration mem
    obtain ⟨directive, -, declares⟩ := declares declaration mem
    exact declares.isProperty
  have again := mergeable.merged_merged_iff named
  refine ⟨fun attributes texts => ?_, ⟨fun stably => ?_, fun are => ?_⟩, again, ?_⟩
  · have works := mergeable.failure_merge texts
    have texts' := texts.merged mergeable.declared works
    exact ⟨works, mergeable.failure_merge texts'⟩
  · have texts : Attributes.AreTexts [] := by rintro entry ⟨⟩
    exact (mergeable.style_merged_iff texts).mp (stably.readBack [] texts)
  · exact ⟨again.mpr (Style.readUnderOwnNames_of_isDeclaration are),
      fun attributes texts => (mergeable.style_merged_iff texts).mpr are⟩
  · intro declaration mem
    obtain ⟨directive, given, declares⟩ := declares declaration mem
    cases declares with
    | style read => exact .inl (Style.isDeclaration_of_parse read)
    | side side => exact .inr ⟨_, given, side, rfl⟩

/-- Class tokens, declarations of both kinds, a size and a flag. -/
def styledTitle : String :=
  "Dawn > .a class='b a' style='color:red;margin:~0' width=2~rem height=40px lazy"

def styledSet : AttributeSet :=
  [("class", .tokens ["a", "b"]),
    ("style", .declarations [("color", "red"), ("margin", "0"), ("width", "2 rem")]),
    ("height", .text "40"), ("loading", .text "lazy")]

/-- A picture with a class and a style of its own. -/
def styledPicture : Attributes :=
  [("class", .text "x a"), ("src", .text "dawn.png"), ("style", .text "border:none; color: blue;")]

theorem mergesStably_iff_styledTitle :
    Title.collected "img" (some styledTitle) = .ok styledSet ∧ styledSet.MergesStably ∧
      ((styledPicture.merged styledSet).merged styledSet).text? "class" = some "x a b" ∧
      ((styledPicture.merged styledSet).merged styledSet).text? "style" =
        some "border:none;color:red;margin:0;width:2 rem" := by
  have collected : Title.collected "img" (some styledTitle) = .ok styledSet := by decide +kernel
  have stably := (mergesStably_iff collected).2.1.mpr (by decide +kernel)
  have texts : styledPicture.AreTexts := by
    intro entry mem
    simp only [styledPicture, List.mem_cons, List.not_mem_nil, or_false] at mem
    rcases mem with rfl | rfl | rfl <;> exact ⟨_, rfl⟩
  rw [stably.again styledPicture texts]
  exact ⟨collected, stably, by decide +kernel, by decide +kernel⟩

/-- A width with a semicolon. -/
def brokenWidth : AttributeSet :=
  [("style", .declarations [("width", "2rem;color:red")])]

/-- The width is read as two declarations, and the second merge adds what it has taken for one. -/
theorem not_mergesStably_brokenWidth :
    Title.collected "img" (some "> width='2rem;color:red'") = .ok brokenWidth ∧
      (Attributes.merged brokenWidth []).text? "style" = some "width:2rem;color:red" ∧
      ((Attributes.merged brokenWidth []).merged brokenWidth).text? "style" =
        some "width:2rem;color:red;color:red" ∧
      ¬brokenWidth.MergesStably := by
  have once : (Attributes.merged brokenWidth []).text? "style" =
      some "width:2rem;color:red" := by decide +kernel
  have twice : ((Attributes.merged brokenWidth []).merged brokenWidth).text? "style" =
      some "width:2rem;color:red;color:red" := by decide +kernel
  refine ⟨by decide +kernel, once, twice, fun stably => ?_⟩
  rw [stably.again [] (by rintro entry ⟨⟩), once] at twice
  exact absurd twice (by decide)

end MediaMarkup
