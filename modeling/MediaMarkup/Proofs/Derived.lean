import MediaMarkup.Proofs.Asked

/-!
Which attributes a title can change. An attribute that a directive derives goes by the directive's
key, or by one of a few names of its own (`Directive.Derives`); a merge leaves every other attribute
as it is (`Request.text?_merge`).
-/

namespace MediaMarkup

/-- The names of attributes that directives derive whatever their keys are. -/
def derivedNames : List String := ["id", "class", "style", "width", "height", "loading"]

/-- Whether a directive can derive an attribute of a name. -/
def Directive.Derives (directive : Directive) (name : String) : Prop :=
  name ∈ derivedNames ∨ name = directive.key

/-- The name of the attribute that an effect is on. -/
def Effect.attributeName (effect : Effect) : String :=
  match effect.category with
  | .classToken => "class"
  | .style => "style"
  | _ => effect.name

/-- The effects that a directive can have. -/
inductive Directive.Causes (directive : Directive) : Effect → Prop
  | id (value : String) : Causes directive ⟨.id, "id", value⟩
  | token (value : String) : Causes directive ⟨.classToken, "class", value⟩
  | declaration (property value : String) : Causes directive ⟨.style, property, value⟩
  | size {name : String} (side : name = "width" ∨ name = "height") (value : String) :
    Causes directive ⟨.dimension, name, value⟩
  | loading (value : String) : Causes directive ⟨.other, "loading", value⟩
  /-- The attribute goes by the key of the directive. -/
  | keyed {category : Category} {name : String} (noStyle : name ≠ "style")
    (key : name = directive.key) (plain : category ∈ [.boolean, .other, .unset]) (value : String) :
    Causes directive ⟨category, name, value⟩

namespace Directive.Causes

variable {directive : Directive} {effect : Effect}

theorem derives (causes : directive.Causes effect) : directive.Derives effect.attributeName := by
  cases causes with
  | id | token | declaration | loading => exact .inl (by simp [Effect.attributeName, derivedNames])
  | size side =>
    left
    rcases side with rfl | rfl <;> simp [Effect.attributeName, derivedNames]
  | keyed noStyle key plain =>
    right
    simp only [List.mem_cons, List.not_mem_nil, or_false] at plain
    rcases plain with rfl | rfl | rfl <;> exact key

/-- Only declarations are effects on the style. -/
theorem declares (causes : directive.Causes effect) (onStyle : effect.attributeName = "style") :
    effect.category = .style := by
  cases causes with
  | declaration => rfl
  | id | token | loading => simp [Effect.attributeName] at onStyle
  | size side => rcases side with rfl | rfl <;> simp [Effect.attributeName] at onStyle
  | keyed noStyle key plain =>
    simp only [List.mem_cons, List.not_mem_nil, or_false] at plain
    rcases plain with rfl | rfl | rfl <;> exact absurd onStyle noStyle

end Directive.Causes

/-! ## One directive -/

namespace Reading

variable {effect : Effect}

theorem ofSize_eq {name : String} {size : List Char} (h : effect ∈ Effect.ofSize name size) :
    ∃ value, effect = ⟨.dimension, name, value⟩ := by
  unfold Effect.ofSize at h
  split at h
  · cases h
  · exact ⟨_, List.mem_singleton.mp h⟩

theorem category_ofMarked {mark : Char} {name : List Char} {directive : Directive}
    (h : effect ∈ (ofMarked mark name directive).effectsOf) :
    effect.category ∈ [.id, .classToken] := by
  unfold ofMarked at h
  split at h
  · cases h
  · split at h <;>
      · rw [effectsOf, List.mem_singleton] at h
        simp [h]

theorem category_ofPlainFlag {kind key : String}
    (h : effect ∈ (ofPlainFlag kind key).effectsOf) : effect.category ∈ [.boolean, .other] := by
  unfold ofPlainFlag at h
  split at h
  · rw [effectsOf, List.mem_singleton] at h
    simp [h]
  · split at h <;>
      · rw [effectsOf, List.mem_singleton] at h
        simp [h]

theorem category_ofFlag {kind key : String} {sized : Bool}
    (h : effect ∈ (ofFlag kind sized key).effectsOf) :
    effect.category ∈ [.dimension, .boolean, .other] := by
  unfold ofFlag at h
  split at h
  · split at h
    · exact .tail _ (category_ofPlainFlag h)
    · rcases List.mem_append.mp h with h | h <;>
        · obtain ⟨value, rfl⟩ := ofSize_eq h
          exact List.mem_cons_self
  · split at h
    · cases h
    · exact .tail _ (category_ofPlainFlag h)

theorem category_ofUnset {key : String} (h : effect ∈ (ofUnset key).effectsOf) :
    effect.category = .unset := by
  unfold ofUnset at h
  split at h
  · cases h
  · rw [effectsOf, List.mem_singleton] at h
    rw [h]

/-- The effects of a pair are declarations, class tokens, a size, a length taken as a declaration,
or the attribute that the key names. -/
inductive OfPair (key value : String) : Effect → Prop
  | style (styled : key = "style") {declaration : String × String}
    (given : declaration ∈ Style.parse (spaced value)) :
    OfPair key value ⟨.style, declaration.1, declaration.2⟩
  | token (isClass : key = "class") {token : String} (given : token ∈ Classes.split value) :
    OfPair key value ⟨.classToken, "class", token⟩
  | size (side : key = "width" ∨ key = "height") (size : String) :
    OfPair key value ⟨.dimension, key, size⟩
  | length (side : key = "width" ∨ key = "height") : OfPair key value ⟨.style, key, spaced value⟩
  | plain (other : key ∉ ["style", "class", "width", "height"]) :
    OfPair key value ⟨.other, key, value⟩

theorem ofPair_cases {key value : String} (h : effect ∈ (ofPair key value).effectsOf) :
    OfPair key value effect := by
  unfold ofPair at h
  split at h
  · rename_i styled
    simp only [ofStyle, effectsOf, List.mem_map] at h
    obtain ⟨declaration, given, rfl⟩ := h
    exact .style styled given
  · rename_i noStyle
    split at h
    · rename_i isClass
      simp only [ofClass, effectsOf, List.mem_map] at h
      obtain ⟨token, given, rfl⟩ := h
      exact .token isClass given
    · rename_i noClass
      split at h
      · rename_i side
        have side : key = "width" ∨ key = "height" := by simpa using side
        unfold ofLength at h
        split at h
        · obtain ⟨size, rfl⟩ := ofSize_eq h
          exact .size side size
        · split at h
          · cases h
          · rw [List.mem_singleton.mp h]
            exact .length side
      · rename_i noSide
        rw [List.mem_singleton.mp h]
        exact .plain (by simpa [noStyle, noClass] using noSide)

theorem causes_ofSize {directive : Directive} {name : String} {size : List Char}
    (side : name = "width" ∨ name = "height") (h : effect ∈ Effect.ofSize name size) :
    directive.Causes effect := by
  obtain ⟨value, rfl⟩ := ofSize_eq h
  exact .size side value

theorem causes_ofMarked {mark : Char} {name : List Char} {directive : Directive}
    (h : effect ∈ (ofMarked mark name directive).effectsOf) : directive.Causes effect := by
  unfold ofMarked at h
  split at h
  · cases h
  · split at h
    · rw [effectsOf, List.mem_singleton] at h
      exact h ▸ .id _
    · rw [effectsOf, List.mem_singleton] at h
      exact h ▸ .token _

theorem causes_ofPlainFlag {kind key : String} (noStyle : key ≠ "style")
    (h : effect ∈ (ofPlainFlag kind key).effectsOf) : (Directive.flag key).Causes effect := by
  unfold ofPlainFlag at h
  split at h
  · rename_i name value found
    rw [effectsOf, List.mem_singleton] at h
    have loading : name = "loading" := by
      rw [Effect.flagAliases, List.lookup_cons] at found
      split at found
      · exact (congrArg Prod.fst (Option.some.inj found)).symm
      · cases found
    rw [h, loading]
    exact .loading value
  · split at h
    · rw [effectsOf, List.mem_singleton] at h
      rw [h]
      exact .keyed noStyle rfl (by decide) _
    · rw [effectsOf, List.mem_singleton] at h
      rw [h]
      exact .keyed noStyle rfl (by decide) _

theorem causes_ofFlag {kind key : String} {sized : Bool}
    (h : effect ∈ (ofFlag kind sized key).effectsOf) : (Directive.flag key).Causes effect := by
  unfold ofFlag at h
  split at h
  · rename_i width height found
    split at h
    · refine causes_ofPlainFlag ?_ h
      rintro rfl
      have noSize : Effect.dimensions? "style".toList = none := by decide
      rw [noSize, ite_self] at found
      cases found
    · rcases List.mem_append.mp h with h | h
      · exact causes_ofSize (.inl rfl) h
      · exact causes_ofSize (.inr rfl) h
  · split at h
    · cases h
    · rename_i noStyle
      exact causes_ofPlainFlag noStyle h

theorem causes_ofPair {key value : String} (h : effect ∈ (ofPair key value).effectsOf) :
    (Directive.pair key value).Causes effect := by
  cases ofPair_cases h with
  | style | length => exact .declaration _ _
  | token => exact .token _
  | size side => exact .size side _
  | plain other =>
    have noStyle : key ≠ "style" := fun same => other (same ▸ List.mem_cons_self)
    exact .keyed noStyle rfl (by decide) _

theorem causes_ofUnset {key : String} (h : effect ∈ (ofUnset key).effectsOf) :
    (Directive.unset key).Causes effect := by
  unfold ofUnset at h
  split at h
  · cases h
  · rename_i plain
    rw [effectsOf, List.mem_singleton] at h
    have noStyle : key ≠ "style" := fun same => plain (same ▸ List.mem_cons_self)
    rw [h]
    exact .keyed noStyle rfl (by decide) _

theorem causes_ofDirective {kind : String} {sized : Bool} {directive : Directive}
    (h : effect ∈ (ofDirective kind sized directive).effectsOf) : directive.Causes effect := by
  unfold ofDirective at h
  split at h
  · cases h
  · split at h
    · exact causes_ofMarked h
    · cases directive with
      | flag key => exact causes_ofFlag h
      | pair key value => exact causes_ofPair h
      | unset key => exact causes_ofUnset h

/-! ## A title -/

theorem causes_all {kind : String} {directives : List Directive} {sized : Bool}
    (h : effect ∈ (all kind sized directives).flatMap effectsOf) :
    ∃ directive ∈ directives, directive.Causes effect := by
  induction directives generalizing sized with
  | nil => cases h
  | cons directive rest ih =>
    have later {sized : Bool} (h : effect ∈ (all kind sized rest).flatMap effectsOf) :
        ∃ directive' ∈ directive :: rest, directive'.Causes effect := by
      obtain ⟨directive', mem, causes⟩ := ih h
      exact ⟨directive', List.mem_cons_of_mem _ mem, causes⟩
    have here (h : effect ∈ (ofDirective kind sized directive).effectsOf) :
        ∃ directive' ∈ directive :: rest, directive'.Causes effect :=
      ⟨directive, List.mem_cons_self, causes_ofDirective h⟩
    unfold all at h
    split at h
    · simp [effectsOf] at h
    · rename_i list reading
      rw [List.flatMap_cons, List.mem_append] at h
      rcases h with h | h
      · exact here (reading ▸ h)
      · exact later h
    · rw [List.flatMap_cons, List.mem_append] at h
      rcases h with h | h
      · exact here h
      · exact later h

end Reading

namespace AttributeSet

theorem names_put {name other : String} {value : Derived} {set : AttributeSet}
    (h : other ∈ (Entries.put name value set).names) : other ∈ set.names ∨ other = name := by
  rw [Entries.names_put] at h
  split at h
  · exact .inl h
  · simpa using h

/-- What one effect makes of an attribute set. -/
inductive Adds (effect : Effect) (set : AttributeSet) : AttributeSet → Prop
  /-- The class token is in the list already. -/
  | listed (isToken : effect.category = .classToken) {items : List String}
    (present : Entries.get? "class" set = some (.tokens items)) (mem : effect.value ∈ items) :
    Adds effect set set
  /-- The class token occurs in the text that the class was set to. -/
  | unnoticed (isToken : effect.category = .classToken) {text : String}
    (present : Entries.get? "class" set = some (.text text))
    (occurs : Text.occursIn effect.value.toList text.toList = true) : Adds effect set set
  | token (isToken : effect.category = .classToken) {items : List String}
    (present : Entries.get? "class" set = some (.tokens items)) (new : effect.value ∉ items) :
    Adds effect set (Entries.put "class" (.tokens (items ++ [effect.value])) set)
  | firstToken (isToken : effect.category = .classToken)
    (unlisted : Entries.get? "class" set = none ∨
      ∃ entries, Entries.get? "class" set = some (.declarations entries)) :
    Adds effect set (Entries.put "class" (.tokens [effect.value]) set)
  | declaration (isStyle : effect.category = .style) {entries : Entries String}
    (present : Entries.get? "style" set = some (.declarations entries)) :
    Adds effect set
      (Entries.put "style" (.declarations (entries.put effect.name effect.value)) set)
  | firstDeclaration (isStyle : effect.category = .style)
    (undeclared : Entries.get? "style" set = none ∨
      ∃ items, Entries.get? "style" set = some (.tokens items)) :
    Adds effect set (Entries.put "style" (.declarations [(effect.name, effect.value)]) set)
  | text (plain : effect.category ∉ [.classToken, .style]) :
    Adds effect set (Entries.put effect.name (.text effect.value) set)

theorem adds_of_add {effect : Effect} {set next : AttributeSet}
    (added : add effect set = .ok next) : Adds effect set next := by
  obtain ⟨category, name, value⟩ := effect
  unfold add at added
  cases category with
  | classToken =>
    simp only [addClass] at added
    split at added
    · rename_i text present
      split at added
      · rename_i occurs
        cases added
        exact .unnoticed rfl present occurs
      · cases added
    · rename_i items present
      split at added
      · rename_i mem
        cases added
        exact .listed rfl present mem
      · rename_i new
        cases added
        exact .token rfl present new
    · rename_i entries present
      cases added
      exact .firstToken rfl (.inr ⟨entries, present⟩)
    · rename_i absent
      cases added
      exact .firstToken rfl (.inl absent)
  | style =>
    simp only [addDeclaration] at added
    split at added
    · cases added
    · rename_i entries present
      cases added
      exact .declaration rfl present
    · rename_i items present
      cases added
      exact .firstDeclaration rfl (.inr ⟨items, present⟩)
    · rename_i absent
      cases added
      exact .firstDeclaration rfl (.inl absent)
  | id | dimension | boolean | other | unset =>
    cases added
    exact .text (by simp)

/-- An effect that is no declaration and no class token is on the attribute of its name. -/
theorem attributeName_of_plain {effect : Effect}
    (plain : effect.category ∉ [.classToken, .style]) : effect.attributeName = effect.name := by
  obtain ⟨category, name, value⟩ := effect
  cases category with
  | classToken | style => exact absurd (by simp) plain
  | id | dimension | boolean | other | unset => rfl

/-- An effect adds no other name than that of its attribute. -/
theorem names_add {effect : Effect} {set next : AttributeSet} {name : String}
    (added : add effect set = .ok next) (h : name ∈ next.names) :
    name ∈ set.names ∨ name = effect.attributeName := by
  cases adds_of_add added with
  | listed | unnoticed => exact .inl h
  | token isToken | firstToken isToken =>
    rw [Effect.attributeName, isToken]
    exact names_put h
  | declaration isStyle | firstDeclaration isStyle =>
    rw [Effect.attributeName, isStyle]
    exact names_put h
  | text plain =>
    rw [attributeName_of_plain plain]
    exact names_put h

/-- What every effect keeps of an attribute set is kept by all of them. -/
theorem foldlM_keeps {motive : AttributeSet → Prop} {effects : List Effect}
    {set last : AttributeSet}
    (folded : effects.foldlM (fun set effect => add effect set) set = .ok last)
    (step : ∀ effect ∈ effects, ∀ set next, add effect set = .ok next → motive set → motive next)
    (start : motive set) : motive last := by
  induction effects generalizing set with
  | nil =>
    cases folded
    exact start
  | cons effect rest ih =>
    rw [List.foldlM_cons] at folded
    cases added : add effect set with
    | error cause =>
      rw [added] at folded
      cases folded
    | ok next =>
      rw [added] at folded
      exact ih folded (fun effect mem => step effect (List.mem_cons_of_mem _ mem))
        (step effect List.mem_cons_self set next added start)

theorem names_collect {effects : List Effect} {set : AttributeSet}
    (collected : collect effects = .ok set) :
    ∀ name ∈ set.names, ∃ effect ∈ effects, name = effect.attributeName := by
  refine foldlM_keeps
    (motive := fun set => ∀ name ∈ set.names, ∃ effect ∈ effects, name = effect.attributeName)
    collected ?_ (by rintro name ⟨⟩)
  intro effect mem set next added known name named
  rcases names_add added named with before | here
  · exact known name before
  · exact ⟨effect, mem, here⟩

end AttributeSet

/-- An attribute set is collected from the effects of directives none of which fails. -/
theorem Directive.effects_of_collected {kind : String} {directives : List Directive}
    {set : AttributeSet}
    (collected : (do
      let effects ← interpret kind directives
      AttributeSet.collect effects) = .ok set) :
    (readings kind directives).findSome? Reading.failure? = none ∧
      AttributeSet.collect ((readings kind directives).flatMap Reading.effectsOf) = .ok set := by
  unfold interpret at collected
  cases failed : (readings kind directives).findSome? Reading.failure? with
  | some cause =>
    simp only [failed] at collected
    cases collected
  | none =>
    simp only [failed] at collected
    exact ⟨rfl, collected⟩

namespace Request

variable {request : Request} {derived : AttributeSet}

/-- What a request derives is collected from effects of its directives. -/
theorem effects_of_derived (derives : request.derive = .ok derived) :
    ∃ effects, AttributeSet.collect effects = .ok derived ∧
      ∀ effect ∈ effects, ∃ directive ∈ request.title.directives, directive.Causes effect := by
  obtain ⟨-, collected⟩ := Directive.effects_of_collected derives
  exact ⟨_, collected, fun effect mem => Reading.causes_all mem⟩

/-- Every attribute that a request derives can be derived by one of its directives. -/
theorem name_of_derived {name : String} (derives : request.derive = .ok derived)
    (h : name ∈ derived.names) :
    ∃ directive ∈ request.title.directives, directive.Derives name := by
  obtain ⟨effects, collected, caused⟩ := effects_of_derived derives
  obtain ⟨effect, mem, rfl⟩ := AttributeSet.names_collect collected name h
  obtain ⟨directive, mem', causes⟩ := caused effect mem
  exact ⟨directive, mem', causes.derives⟩

end Request

/-! ## Merging -/

namespace Attributes

/-- A merge leaves attributes that it has no value for. -/
theorem get?_merge {derived : AttributeSet} {attributes : Attributes} {name : String}
    (h : name ∉ derived.names) :
    Entries.get? name (attributes.merge .data derived).attributes =
      Entries.get? name attributes := by
  induction derived generalizing attributes with
  | nil => rfl
  | cons entry rest ih =>
    obtain ⟨other, value⟩ := entry
    simp only [Entries.names, List.map_cons, List.mem_cons, not_or] at h
    obtain ⟨ne, h⟩ := h
    rw [merge]
    split
    · exact ih h
    · rw [mergeEntry_data]
      cases mergeValue other value attributes with
      | error cause => rfl
      | ok merged =>
        have kept := Entries.get?_put_of_ne ne merged attributes
        exact (ih h).trans kept

theorem text?_merge {derived : AttributeSet} {attributes : Attributes} {name : String}
    (h : name ∉ derived.names) :
    (attributes.merge .data derived).attributes.text? name = attributes.text? name := by
  rw [text?, text?, get?_merge h]

/-- What a value comes to depends on no other attribute. -/
theorem mergeValue_congr {name : String} {value : Derived} {attributes others : Attributes}
    (same : Entries.get? name attributes = Entries.get? name others) :
    mergeValue name value attributes = mergeValue name value others := by
  unfold mergeValue
  split
  · rename_i isClass
    subst isClass
    rw [mergeClass, mergeClass, same]
  · split
    · rename_i isStyle
      subst isStyle
      cases value with
      | text | tokens => rfl
      | declarations => rw [mergeStyle, mergeStyle, same]
    · rfl

/-- The first step of a merge that does not fail. -/
theorem merge_cons {name : String} {value : Derived} {rest : AttributeSet}
    {attributes : Attributes}
    (works : (attributes.merge .data ((name, value) :: rest)).failure = none) :
    ∃ next : Attributes,
      (isSkipped name value = true ∧ next = attributes ∨
        isSkipped name value = false ∧ ∃ new, mergeValue name value attributes = .ok new ∧
          next = Entries.put name new attributes) ∧
      (attributes.merge .data ((name, value) :: rest)).attributes =
        (next.merge .data rest).attributes ∧
      (next.merge .data rest).failure = none := by
  rw [merge] at works ⊢
  split at works
  · rename_i skipped
    rw [if_pos skipped]
    exact ⟨attributes, .inl ⟨skipped, rfl⟩, rfl, works⟩
  · rename_i written
    rw [if_neg written]
    rw [mergeEntry_data] at works ⊢
    cases value_eq : mergeValue name value attributes with
    | error cause =>
      rw [value_eq] at works
      cases works
    | ok new =>
      rw [value_eq] at works
      exact ⟨_, .inr ⟨Bool.not_eq_true _ ▸ written, new, rfl, rfl⟩, rfl, works⟩

/-- An attribute holds what its value comes to after a merge that does not fail, or what it held if
the value is skipped. -/
theorem get?_merge_of_mem {derived : AttributeSet} {attributes : Attributes} {name : String}
    {value : Derived} (distinct : (Entries.names derived).Nodup) (mem : (name, value) ∈ derived)
    (works : (attributes.merge .data derived).failure = none) :
    isSkipped name value = true ∧
        Entries.get? name (attributes.merge .data derived).attributes =
          Entries.get? name attributes ∨
      isSkipped name value = false ∧ ∃ new, mergeValue name value attributes = .ok new ∧
        Entries.get? name (attributes.merge .data derived).attributes = some new := by
  induction derived generalizing attributes with
  | nil => cases mem
  | cons entry rest ih =>
    obtain ⟨other, otherValue⟩ := entry
    rw [Entries.names, List.map_cons, List.nodup_cons] at distinct
    obtain ⟨next, step, attributes_eq, works⟩ := merge_cons works
    rw [attributes_eq]
    rcases List.mem_cons.mp mem with here | later
    · cases here
      rw [get?_merge distinct.1]
      rcases step with ⟨skipped, rfl⟩ | ⟨written, new, value_eq, rfl⟩
      · exact .inl ⟨skipped, rfl⟩
      · exact .inr ⟨written, new, value_eq, Entries.get?_put_self _ _ _⟩
    · have named : name ∈ Entries.names rest := List.mem_map_of_mem later
      have ne : name ≠ other := fun same => distinct.1 (same ▸ named)
      have kept : Entries.get? name next = Entries.get? name attributes := by
        rcases step with ⟨-, rfl⟩ | ⟨-, new, -, rfl⟩
        · rfl
        · exact Entries.get?_put_of_ne ne _ _
      rw [← kept, ← mergeValue_congr kept]
      exact ih distinct.2 later works

end Attributes

namespace Request

variable {head : Head} {request : Request} {derived : AttributeSet} {name : String}

/-- An attribute that no directive of the title derives is only changed as the source, the alt text
or the title itself. -/
theorem text?_merge (derives : request.derive = .ok derived) (plain : name ∉ derivedNames)
    (unkeyed : ∀ directive ∈ request.title.directives, directive.key ≠ name) :
    (request.merge .data derived head).attributes.text? name =
      (request.editAttributes head.tag head.attributes).text? name := by
  apply Attributes.text?_merge
  intro h
  obtain ⟨directive, mem, named | keyed⟩ := name_of_derived derives h
  · exact plain named
  · exact unkeyed directive mem keyed.symm

end Request

end MediaMarkup
