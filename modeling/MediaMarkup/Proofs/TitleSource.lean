import MediaMarkup.Proofs.Entries
import MediaMarkup.Proofs.Visited

/-!
The source that a title gives. Of the directives keyed by `src` the last one counts, a flag gives an
empty source, and what it gives is written over the source that was unwrapped before
(`Request.source_written`).
-/

namespace MediaMarkup

namespace Directive

/-- Whether a directive gives the source of its element. -/
def givesSource (directive : Directive) : Bool :=
  directive.key = "src"

/-- What a directive gives; without a value it is empty. -/
def given (directive : Directive) : String :=
  directive.value?.getD ""

end Directive

namespace Head

/-- The source that the title of a media element gives. -/
def titleSource? (head : Head) : Option String :=
  (head.title.directives.filter Directive.givesSource).getLast?.map Directive.given

/-- The source of a media element without its wrapper. -/
def unwrapped? (head : Head) : Option String :=
  head.source?.map fun source => (Link.ofSource source false).source

/-- The source of a media element once its title was carried out. -/
def written? (head : Head) : Option String :=
  head.unwrapped?.map head.titleSource?.getD

theorem media?_eq (head : Head) : head.media? = head.unwrapped?.map .ofSource := by
  rw [media?, unwrapped?, Option.map_map]
  rfl

end Head

/-! ## From directives to effects -/

namespace Effect

/-- Whether an effect is on an attribute. -/
def on (name : String) (effect : Effect) : Bool :=
  effect.attributeName = name

def onSource (effect : Effect) : Bool :=
  effect.attributeName = "src"

end Effect

/-- A key that is read as the name of an attribute and as nothing else. -/
structure Directive.IsNaming (key : String) : Prop where
  unmarked : ∃ c rest, key.toList = c :: rest ∧ c ≠ '#' ∧ c ≠ '.'
  noSize : Effect.dimensions? key.toList = none
  noAlias : Effect.flagAliases.lookup key = none
  plain : key ∉ ["style", "class", "width", "height"]

theorem Directive.isNaming_src : IsNaming "src" :=
  ⟨⟨'s', ['r', 'c'], rfl, by decide, by decide⟩, by decide, by decide, by decide⟩

namespace Reading

theorem on_ofPlainFlag (kind : String) {key : String}
    (noAlias : Effect.flagAliases.lookup key = none) :
    ((ofPlainFlag kind key).effectsOf.filter (Effect.on key)).map Effect.value = [""] := by
  unfold ofPlainFlag
  rw [noAlias]
  dsimp only
  split <;> simp [effectsOf, Effect.on, Effect.attributeName]

/-- A directive has one effect on the attribute that its key names. -/
theorem on_ofDirective {key : String} (naming : Directive.IsNaming key) (kind : String)
    (sized : Bool) {directive : Directive} (keyed : directive.key = key) :
    ((ofDirective kind sized directive).effectsOf.filter (Effect.on key)).map Effect.value =
      [directive.given] := by
  obtain ⟨⟨c, rest, chars, noHash, noDot⟩, noSize, noAlias, plain⟩ := naming
  simp only [List.mem_cons, List.not_mem_nil, or_false, not_or] at plain
  obtain ⟨noStyle, noClass, noWidth, noHeight⟩ := plain
  have unmarked : ¬(decide (c = '#') || decide (c = '.')) = true := by simp [noHash, noDot]
  simp only [ofDirective, keyed, chars]
  rw [if_neg unmarked]
  cases directive with
  | flag other =>
    rw [Directive.key] at keyed
    subst keyed
    simp only [ofFlag, noSize, ite_self, if_neg noStyle]
    exact on_ofPlainFlag kind noAlias
  | pair other value =>
    rw [Directive.key] at keyed
    subst keyed
    simp [ofPair, noStyle, noClass, noWidth, noHeight, effectsOf, Effect.on,
      Effect.attributeName, Directive.given, Directive.value?]
  | unset other =>
    rw [Directive.key] at keyed
    subst keyed
    simp [ofUnset, noStyle, noClass, noWidth, noHeight, effectsOf, Effect.on,
      Effect.attributeName, Directive.given, Directive.value?]

/-- A directive has one effect on the source if it is keyed by it, and otherwise none. -/
theorem onSource_ofDirective (kind : String) (sized : Bool) (directive : Directive) :
    ((ofDirective kind sized directive).effectsOf.filter Effect.onSource).map Effect.value =
      if directive.givesSource then [directive.given] else [] := by
  by_cases keyed : directive.key = "src"
  · have one := on_ofDirective Directive.isNaming_src kind sized keyed
    rw [Directive.givesSource, decide_eq_true keyed, if_pos rfl]
    exact one
  · have elsewhere : (ofDirective kind sized directive).effectsOf.filter Effect.onSource = [] := by
      rw [List.filter_eq_nil_iff]
      intro effect mem onSource
      rcases (causes_ofDirective mem).derives with fixed | key
      · rw [of_decide_eq_true onSource] at fixed
        exact absurd fixed (by decide)
      · exact keyed (key.symm.trans (of_decide_eq_true onSource))
    simp [elsewhere, Directive.givesSource, keyed]

/-- A directive that does not fail is read in front of the others. -/
theorem all_cons {kind : String} {sized : Bool} {directive : Directive} {rest : List Directive}
    (read : (all kind sized (directive :: rest)).findSome? failure? = none) :
    ∃ later, all kind sized (directive :: rest) =
        ofDirective kind sized directive :: all kind later rest ∧
      (all kind later rest).findSome? failure? = none := by
  cases reading : ofDirective kind sized directive with
  | failed cause => simp [all, reading, failure?] at read
  | size list =>
    exact ⟨true, by simp [all, reading], by simpa [all, reading, failure?] using read⟩
  | effects list =>
    exact ⟨sized, by simp [all, reading], by simpa [all, reading, failure?] using read⟩
  | malformed key =>
    exact ⟨sized, by simp [all, reading], by simpa [all, reading, failure?] using read⟩
  | styleWithoutValue =>
    exact ⟨sized, by simp [all, reading], by simpa [all, reading, failure?] using read⟩

/-- Where no directive fails, the effects of one sort are those that each directive has. -/
theorem filter_all {kind : String} {sized : Bool} {directives : List Directive}
    {test : Effect → Bool} {values : Directive → List String}
    (each : ∀ sized directive,
      ((ofDirective kind sized directive).effectsOf.filter test).map Effect.value =
        values directive)
    (read : (all kind sized directives).findSome? failure? = none) :
    (((all kind sized directives).flatMap effectsOf).filter test).map Effect.value =
      directives.flatMap values := by
  induction directives generalizing sized with
  | nil => rfl
  | cons directive rest ih =>
    obtain ⟨later, all_eq, read'⟩ := all_cons read
    rw [all_eq, List.flatMap_cons, List.filter_append, List.map_append, each, ih read',
      List.flatMap_cons]

/-- Where no directive fails, each that is keyed by the source has its effect. -/
theorem onSource_all {kind : String} {sized : Bool} {directives : List Directive}
    (read : (all kind sized directives).findSome? failure? = none) :
    (((all kind sized directives).flatMap effectsOf).filter Effect.onSource).map Effect.value =
      (directives.filter Directive.givesSource).map Directive.given := by
  rw [filter_all (onSource_ofDirective kind) read]
  clear read
  induction directives with
  | nil => rfl
  | cons directive rest ih =>
    rw [List.flatMap_cons, ih, List.filter_cons]
    cases directive.givesSource <;> rfl

end Reading

/-! ## From effects to attributes -/

namespace AttributeSet

variable {set next : AttributeSet}

/-- An effect writes its attribute, and its text unless that is the class or the style; a class
token that is there already changes nothing. -/
theorem add_eq {effect : Effect} (added : add effect set = .ok next) :
    next = set ∧ effect.attributeName = "class" ∨
      ∃ value, next = Entries.put effect.attributeName value set ∧
        (effect.attributeName ∉ ["class", "style"] → value = .text effect.value) := by
  cases adds_of_add added with
  | listed isToken | unnoticed isToken => exact .inl ⟨rfl, by rw [Effect.attributeName, isToken]⟩
  | token isToken | firstToken isToken =>
    have named : effect.attributeName = "class" := by rw [Effect.attributeName, isToken]
    exact .inr ⟨_, by rw [named], fun plain => absurd (by simp [named]) plain⟩
  | declaration isStyle | firstDeclaration isStyle =>
    have named : effect.attributeName = "style" := by rw [Effect.attributeName, isStyle]
    exact .inr ⟨_, by rw [named], fun plain => absurd (by simp [named]) plain⟩
  | text plain => exact .inr ⟨_, by rw [attributeName_of_plain plain], fun _ => rfl⟩

theorem nodup_add {effect : Effect} (added : add effect set = .ok next)
    (distinct : (Entries.names set).Nodup) : (Entries.names next).Nodup := by
  rcases add_eq added with ⟨rfl, -⟩ | ⟨value, rfl, -⟩
  · exact distinct
  · exact Entries.nodup_put distinct

variable {name : String}

/-- An effect on an attribute replaces what was there, and others leave it. -/
theorem text_add (plain : name ∉ ["class", "style"]) {effect : Effect}
    (added : add effect set = .ok next) :
    Entries.get? name next =
      if effect.on name then some (.text effect.value) else Entries.get? name set := by
  by_cases here : effect.on name = true
  · have named : effect.attributeName = name := of_decide_eq_true here
    rw [if_pos here]
    rcases add_eq added with ⟨-, onClass⟩ | ⟨value, rfl, text⟩
    · rw [named] at onClass
      exact absurd (onClass ▸ List.mem_cons_self) plain
    · rw [named] at text ⊢
      rw [Entries.get?_put_self, text plain]
  · have other : name ≠ effect.attributeName := fun same => here (decide_eq_true same.symm)
    rw [if_neg here]
    rcases add_eq added with ⟨rfl, -⟩ | ⟨value, rfl, -⟩
    · rfl
    · rw [Entries.get?_put_of_ne other]

/-- Of the effects on an attribute the last one counts. -/
theorem text_foldlM (plain : name ∉ ["class", "style"]) {effects : List Effect}
    {last : AttributeSet}
    (folded : effects.foldlM (fun set effect => add effect set) set = .ok last) :
    Entries.get? name last =
      (((effects.filter (Effect.on name)).map Effect.value).getLast?.map .text).or
        (Entries.get? name set) := by
  induction effects generalizing set with
  | nil =>
    cases folded
    rfl
  | cons effect rest ih =>
    rw [List.foldlM_cons] at folded
    cases added : add effect set with
    | error cause =>
      rw [added] at folded
      cases folded
    | ok next =>
      rw [added] at folded
      rw [ih folded, text_add plain added, List.filter_cons]
      cases effect.on name with
      | false => rfl
      | true =>
        simp only [↓reduceIte, List.map_cons, List.getLast?_cons]
        cases ((rest.filter (Effect.on name)).map Effect.value).getLast? <;> rfl

/-- Of the effects on an attribute that directives have, the last one counts. -/
theorem text_collect (plain : name ∉ ["class", "style"]) {effects : List Effect}
    (collected : collect effects = .ok set) :
    Entries.get? name set =
      ((effects.filter (Effect.on name)).map Effect.value).getLast?.map .text := by
  rw [text_foldlM plain collected]
  simp [Entries.get?]

theorem nodup_collect {effects : List Effect} (collected : collect effects = .ok set) :
    (Entries.names set).Nodup :=
  foldlM_keeps (motive := fun set => (Entries.names set).Nodup) collected
    (fun _ _ _ _ added distinct => nodup_add added distinct) List.nodup_nil

end AttributeSet

namespace Attributes

/-- A merge that does not fail writes the texts of all attributes but class and style. -/
theorem text?_merge_of_get? {derived : AttributeSet} {attributes : Attributes} {name text : String}
    (distinct : (Entries.names derived).Nodup)
    (present : Entries.get? name derived = some (.text text))
    (plain : name ≠ "class" ∧ name ≠ "style")
    (merged : (attributes.merge .data derived).failure = none) :
    (attributes.merge .data derived).attributes.text? name = some text := by
  have written : isSkipped name (.text text) = false := by simp [isSkipped, plain]
  have value_eq : mergeValue name (.text text) attributes = .ok (.text text) := by
    simp [mergeValue, plain, Derived.plainText]
  rcases get?_merge_of_mem distinct (Entries.mem_of_get? present) merged with
    ⟨skipped, -⟩ | ⟨-, new, same, holds⟩
  · rw [written] at skipped
    cases skipped
  · rw [value_eq, Except.ok.injEq] at same
    rw [text?, holds, ← same]
    rfl

end Attributes

namespace Request

variable {head : Head} {insideLink : Bool} {request : Request} {derived : AttributeSet}

/-- What a title derives for the source is what it gives. -/
theorem source_derive (asked : ofHead? head insideLink = some request)
    (derives : request.derive = .ok derived) :
    (Entries.names derived).Nodup ∧
      Entries.get? "src" derived = head.titleSource?.map .text := by
  obtain ⟨read, collected⟩ := Directive.effects_of_collected derives
  refine ⟨AttributeSet.nodup_collect collected, ?_⟩
  have last : Entries.get? "src" derived = _ := AttributeSet.text_collect (by decide) collected
  have onSource := Reading.onSource_all read
  rw [title_eq asked] at onSource last
  have given : head.titleSource? =
      ((head.title.directives.filter Directive.givesSource).map Directive.given).getLast? := by
    rw [Head.titleSource?, List.getLast?_map]
  rw [last, given, ← onSource]
  rfl

/-- **The source that is written** is the one that the title gives, or else the one without its
wrapper. -/
theorem source_written (asked : ofHead? head insideLink = some request)
    (derives : request.derive = .ok derived)
    (merges : (request.merge .data derived head).failure = none) :
    (request.merge .data derived head).attributes.text? "src" = head.written? := by
  obtain ⟨source, present, link⟩ := source?_of_asked asked
  obtain ⟨distinct, given⟩ := source_derive asked derives
  have unwrapped : (request.editAttributes head.tag head.attributes).text? "src" =
      some (Link.ofSource source false).source := by
    rw [editAttributes, text?_editTitle_of_ne (by decide), text?_editAlt_of_ne _ (by decide),
      Attributes.text?_setText_self, link, Link.source_ofSource source insideLink]
  rw [Head.written?, Head.unwrapped?, present, Option.map_some, Option.map_some]
  cases title : head.titleSource? with
  | none =>
    rw [title, Option.map_none] at given
    have absent : "src" ∉ Entries.names derived := by
      rw [← Entries.isSome_get?, given]
      exact Bool.false_ne_true
    rw [merge, Attributes.text?_merge absent, unwrapped, Option.getD_none]
  | some text =>
    rw [title, Option.map_some] at given
    rw [merge, Attributes.text?_merge_of_get? distinct given (by decide) merges, Option.getD_some]

end Request

end MediaMarkup
