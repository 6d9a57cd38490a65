import MediaMarkup.Proofs.Failure
import MediaMarkup.Proofs.TitleSource
import MediaMarkup.Proofs.WrittenTitle

/-!
The names that a title gives: of attributes, of an id and of classes. Each comes from the key of a
directive, from a fixed list, or from the words of a value, so that none of them can end the
attribute that it stands in (`names_collected`).
-/

namespace MediaMarkup

/-- A text that can be the name of an attribute. -/
structure IsName (name : String) : Prop where
  nonempty : name ≠ ""
  noBlank : ∀ c ∈ name.toList, Text.isBlank c = false
  noMark : ∀ c ∈ name.toList, c ∉ ['"', '\'', '<', '>', '/', '=']
  noControl : ∀ c ∈ name.toList, 0x20 ≤ c.toNat ∧ c.toNat ≠ 0x7F

/-- A text that is one token in a list of classes. -/
structure IsClassToken (token : String) : Prop where
  nonempty : token ≠ ""
  noBlank : ∀ c ∈ token.toList, Text.isBlank c = false

theorem IsName.isClassToken {name : String} (isName : IsName name) : IsClassToken name :=
  ⟨isName.nonempty, isName.noBlank⟩

namespace Directive

/-! ## What a directive gives -/

/-- What a flag gives behind a mark at its start. -/
def marked? (mark : Char) : Directive → Option String
  | .flag key =>
    match key.toList with
    | [] => none
    | c :: name => if c = mark && !name.isEmpty then some (.ofList name) else none
  | _ => none

/-- The id that a directive gives: behind a `#`, or under the key `id`. -/
def givenId? (directive : Directive) : Option String :=
  (directive.marked? '#').or (if directive.key = "id" then some directive.given else none)

/-- The class tokens that a directive gives: behind a dot, or as words under the key `class`. -/
def classTokens : Directive → List String
  | .flag key => (marked? '.' (.flag key)).toList
  | .pair key value => if key = "class" then Classes.split value else []
  | .unset _ => []

theorem isNaming_id : IsNaming "id" :=
  ⟨⟨'i', ['d'], rfl, by decide, by decide⟩, by decide, by decide, by decide⟩

variable {directive : Directive} {key : List Char} {mark : Char} {name token : String}

/-! ## Names from keys -/

theorem isName_of_isValidKey (valid : isValidKey key = true) : IsName (.ofList key) := by
  have nonempty := ne_nil_of_isValidKey valid
  simp only [isValidKey, Bool.and_eq_true, Bool.not_eq_true', List.any_eq_false] at valid
  have allowed : ∀ c ∈ (String.ofList key).toList, isInvalidInKey c = false := by
    intro c mem
    rw [String.toList_ofList] at mem
    simpa using valid.2 c mem
  simp only [isInvalidInKey, Bool.or_eq_false_iff, decide_eq_false_iff_not] at allowed
  refine ⟨?_, fun c mem => ?_, fun c mem => ?_, fun c mem => ?_⟩
  · intro empty
    exact nonempty (by simpa using empty)
  · simp [allowed c mem]
  · simp [allowed c mem]
  · have visible := allowed c mem
    omega

theorem isValidKey_tail {c : Char} (valid : isValidKey (c :: key) = true) (nonempty : key ≠ []) :
    isValidKey key = true := by
  simp only [isValidKey, List.isEmpty_cons, List.any_cons, Bool.not_false, Bool.true_and,
    Bool.not_eq_true', Bool.or_eq_false_iff] at valid
  simp [isValidKey, valid.2, nonempty]

theorem isName_of_marked? (valid : isValidKey directive.key.toList = true)
    (marked : directive.marked? mark = some name) : IsName name := by
  cases directive with
  | pair | unset => cases marked
  | flag key =>
    rw [Directive.key] at valid
    rw [marked?] at marked
    cases chars : key.toList with
    | nil =>
      rw [chars] at marked
      cases marked
    | cons c rest =>
      rw [chars] at valid marked
      simp only [Option.ite_none_right_eq_some, Bool.and_eq_true, Bool.not_eq_true',
        List.isEmpty_eq_false_iff, Option.some.injEq] at marked
      obtain ⟨⟨-, nonempty⟩, rfl⟩ := marked
      exact isName_of_isValidKey (isValidKey_tail valid nonempty)

/-- The words of a text are class tokens. -/
theorem isClassToken_of_split {value : String} (mem : token ∈ Classes.split value) :
    IsClassToken token := by
  rw [Classes.split, List.mem_map] at mem
  obtain ⟨word, mem, rfl⟩ := mem
  obtain ⟨nonempty, noBlank⟩ := Text.mem_words mem
  refine ⟨fun empty => nonempty (by simpa using empty), ?_⟩
  rw [String.toList_ofList]
  exact noBlank

theorem isClassToken_of_classTokens (valid : isValidKey directive.key.toList = true)
    (mem : token ∈ directive.classTokens) : IsClassToken token := by
  cases directive with
  | flag key =>
    rw [classTokens, Option.mem_toList] at mem
    exact (isName_of_marked? valid mem).isClassToken
  | pair key value =>
    rw [classTokens] at mem
    split at mem
    · exact isClassToken_of_split mem
    · cases mem
  | unset => cases mem

theorem isValidKey_of_ofToken? {token : List Char} (read : ofToken? token = some directive) :
    isValidKey directive.key.toList = true := by
  unfold ofToken? at read
  dsimp only at read
  split at read
  · rename_i valid
    split at read <;>
      · cases read
        rw [Directive.key, String.toList_ofList]
        exact valid
  · cases read

/-- The keys of the directives of a title are valid. -/
theorem isValidKey_of_parse? {title : Option String}
    (mem : directive ∈ (Title.parse? title).directives) :
    isValidKey directive.key.toList = true := by
  cases title with
  | none => cases mem
  | some title =>
    simp only [Title.parse?, Title.parse, Title.readDirectives, List.mem_filterMap] at mem
    obtain ⟨token, -, read⟩ := mem
    exact isValidKey_of_ofToken? read

end Directive

/-! ## What the effects of a directive are -/

def Effect.isToken (effect : Effect) : Bool :=
  effect.category = .classToken

/-- An effect that names neither an id nor a class token. -/
def Effect.Plain (effect : Effect) : Prop :=
  effect.category ≠ .id ∧ effect.category ≠ .classToken

/-- A plain effect on the id goes by the key of its directive. -/
theorem Effect.Plain.key_eq {directive : Directive} {effect : Effect} (plain : effect.Plain)
    (causes : directive.Causes effect) (onId : effect.attributeName = "id") :
    directive.key = "id" := by
  cases causes with
  | id => exact absurd rfl plain.1
  | token => exact absurd rfl plain.2
  | declaration | loading => simp [Effect.attributeName] at onId
  | size side => rcases side with rfl | rfl <;> simp [Effect.attributeName] at onId
  | keyed noStyle key category =>
    simp only [List.mem_cons, List.not_mem_nil, or_false] at category
    rcases category with rfl | rfl | rfl <;> exact key.symm.trans onId

namespace Reading

variable {effect : Effect} {key value : String}

theorem plain_ofFlag {kind : String} {sized : Bool}
    (mem : effect ∈ (ofFlag kind sized key).effectsOf) : effect.Plain := by
  have category := category_ofFlag mem
  constructor <;> rintro same <;> simp [same] at category

theorem plain_ofPair (noClass : key ≠ "class") (mem : effect ∈ (ofPair key value).effectsOf) :
    effect.Plain := by
  cases ofPair_cases mem with
  | token isClass => exact absurd isClass noClass
  | style | size | length | plain => exact ⟨by simp, by simp⟩

theorem plain_ofUnset (mem : effect ∈ (ofUnset key).effectsOf) : effect.Plain := by
  have category := category_ofUnset mem
  constructor <;> rintro same <;> simp [same] at category

/-- Ids and class tokens are named by marked flags and by the key `class` only. -/
theorem ofDirective_cases (kind : String) (sized : Bool) (directive : Directive) :
    (∃ mark name, (mark = '#' ∨ mark = '.') ∧ directive.key.toList = mark :: name ∧
        ofDirective kind sized directive = ofMarked mark name directive) ∨
      (∃ value, directive = .pair "class" value ∧
        ofDirective kind sized directive = ofClass value) ∨
      (directive.marked? '#' = none ∧ directive.classTokens = [] ∧
        ∀ effect ∈ (ofDirective kind sized directive).effectsOf, effect.Plain) := by
  cases chars : directive.key.toList with
  | nil =>
    refine .inr (.inr ?_)
    simp only [ofDirective, chars, effectsOf, List.not_mem_nil, false_imp_iff, implies_true,
      and_true]
    cases directive with
    | flag key =>
      rw [Directive.key] at chars
      simp [Directive.classTokens, Directive.marked?, chars]
    | pair key value =>
      rw [Directive.key] at chars
      refine ⟨rfl, if_neg ?_⟩
      rintro rfl
      cases chars
    | unset key => exact ⟨rfl, rfl⟩
  | cons c name =>
    by_cases marked : c = '#' ∨ c = '.'
    · refine .inl ⟨c, name, marked, rfl, ?_⟩
      simp only [ofDirective, chars]
      rw [if_pos (by simpa using marked)]
    · refine .inr ?_
      simp only [ofDirective, chars]
      rw [if_neg (by simpa using marked)]
      rw [not_or] at marked
      cases directive with
      | flag key =>
        rw [Directive.key] at chars
        refine .inr ⟨?_, ?_, fun effect mem => plain_ofFlag mem⟩
        · simp [Directive.marked?, chars, marked]
        · simp [Directive.classTokens, Directive.marked?, chars, marked]
      | pair key value =>
        by_cases isClass : key = "class"
        · subst isClass
          exact .inl ⟨value, rfl, rfl⟩
        · exact .inr ⟨rfl, if_neg isClass, fun effect mem => plain_ofPair isClass mem⟩
      | unset key => exact .inr ⟨rfl, rfl, fun effect mem => plain_ofUnset mem⟩

/-- A directive has the effects of the class tokens that it gives. -/
theorem isToken_ofDirective (kind : String) (sized : Bool) (directive : Directive) :
    ((ofDirective kind sized directive).effectsOf.filter Effect.isToken).map Effect.value =
      directive.classTokens := by
  rcases ofDirective_cases kind sized directive with
    ⟨mark, name, marked, chars, read⟩ | ⟨value, rfl, read⟩ | ⟨-, noToken, plain⟩
  · rw [read, ofMarked]
    cases directive with
    | flag key =>
      rw [Directive.key] at chars
      rw [Directive.classTokens, Directive.marked?, chars]
      rcases marked with rfl | rfl <;> cases name <;>
        simp [Directive.isFlag, effectsOf, Effect.isToken]
    | pair key value =>
      refine (if_neg ?_).symm
      rw [Directive.key] at chars
      rintro rfl
      rcases marked with rfl | rfl <;> cases chars
    | unset key => rfl
  · rw [read, ofClass, effectsOf, Directive.classTokens, if_pos rfl, List.filter_eq_self.mpr]
    · rw [List.map_map]
      exact List.map_id _
    · simp [Effect.isToken]
  · rw [noToken, List.filter_eq_nil_iff.mpr]
    · rfl
    · intro effect mem isToken
      exact (plain effect mem).2 (of_decide_eq_true isToken)

/-- A directive has one effect on the id if it gives one, and otherwise none. -/
theorem onId_ofDirective (kind : String) (sized : Bool) (directive : Directive) :
    ((ofDirective kind sized directive).effectsOf.filter (Effect.on "id")).map Effect.value =
      directive.givenId?.toList := by
  rcases ofDirective_cases kind sized directive with
    ⟨mark, name, marked, chars, read⟩ | ⟨value, rfl, read⟩ | ⟨unmarked, -, plain⟩
  · have otherKey : directive.key ≠ "id" := by
      intro same
      rw [same] at chars
      rcases marked with rfl | rfl <;> cases chars
    rw [read, ofMarked, Directive.givenId?, if_neg otherKey, Option.or_none]
    cases directive with
    | flag key =>
      rw [Directive.key] at chars
      rw [Directive.marked?, chars]
      rcases marked with rfl | rfl <;> cases name <;>
        simp [Directive.isFlag, effectsOf, Effect.on, Effect.attributeName]
    | pair | unset => rfl
  · rw [read, ofClass, effectsOf, List.filter_eq_nil_iff.mpr]
    · rfl
    · simp [Effect.on, Effect.attributeName]
  · rw [Directive.givenId?, unmarked, Option.none_or]
    by_cases keyed : directive.key = "id"
    · rw [on_ofDirective Directive.isNaming_id kind sized keyed, if_pos keyed]
      rfl
    · rw [if_neg keyed, List.filter_eq_nil_iff.mpr]
      · rfl
      · intro effect mem onId
        exact keyed ((plain effect mem).key_eq (causes_ofDirective mem) (of_decide_eq_true onId))

end Reading

/-! ## Attribute sets of titles -/

namespace AttributeSet

variable {set next : AttributeSet}

/-- All lists in a set are made of certain tokens. -/
def ListsOf (tokens : List String) (set : AttributeSet) : Prop :=
  ∀ name items, (name, .tokens items) ∈ set → ∀ token ∈ items, token ∈ tokens

variable {tokens : List String}

theorem ListsOf.put (lists : set.ListsOf tokens) {name : String} {value : Derived}
    (new : ∀ items, value = .tokens items → ∀ token ∈ items, token ∈ tokens) :
    ListsOf tokens (Entries.put name value set) := by
  intro other items mem
  rcases Entries.mem_put mem with old | same
  · exact lists other items old
  · cases same
    exact new items rfl

/-- An effect adds its own class token to a list at most. -/
theorem ListsOf.add (lists : set.ListsOf tokens) {effect : Effect}
    (listed : effect.isToken = true → effect.value ∈ tokens)
    (added : AttributeSet.add effect set = .ok next) : next.ListsOf tokens := by
  cases adds_of_add added with
  | listed | unnoticed => exact lists
  | @token isToken items present new =>
    apply lists.put
    rintro grown ⟨⟩ token mem
    rcases List.mem_append.mp mem with old | last
    · exact lists "class" items (Entries.mem_of_get? present) token old
    · rw [List.mem_singleton.mp last]
      exact listed (decide_eq_true isToken)
  | firstToken isToken =>
    apply lists.put
    rintro items ⟨⟩ token mem
    rw [List.mem_singleton.mp mem]
    exact listed (decide_eq_true isToken)
  | declaration | firstDeclaration | text => exact lists.put (by rintro items ⟨⟩)

/-- The lists of a set that is collected from effects are made of their class tokens. -/
theorem listsOf_collect {effects : List Effect} (collected : collect effects = .ok set) :
    set.ListsOf ((effects.filter Effect.isToken).map Effect.value) := by
  refine foldlM_keeps collected ?_ (by rintro name items ⟨⟩)
  intro effect mem set next added lists
  exact lists.add (fun isToken => List.mem_map_of_mem (List.mem_filter.mpr ⟨mem, isToken⟩)) added

end AttributeSet

/-- **Names that a title gives are names.** Every attribute that a title derives has a name that can
be written; the id is the last one given, and behind a `#` it is such a name too; and a list of
classes holds class tokens only. -/
theorem names_collected {kind : String} {title : Option String} {set : AttributeSet}
    (collected : Title.collected kind title = .ok set) :
    (∀ name ∈ set.names, IsName name) ∧
      (Entries.get? "id" set =
          ((Title.parse? title).directives.filterMap Directive.givenId?).getLast?.map .text ∧
        ∀ directive ∈ (Title.parse? title).directives, ∀ id, directive.marked? '#' = some id →
          IsName id) ∧
      ∀ name items, (name, .tokens items) ∈ set → ∀ token ∈ items, IsClassToken token := by
  obtain ⟨read, folded⟩ := Directive.effects_of_collected collected
  refine ⟨fun name named => ?_, ⟨?_, ?_⟩, fun name items mem token listed => ?_⟩
  · obtain ⟨effect, mem, rfl⟩ := AttributeSet.names_collect folded name named
    obtain ⟨directive, given, causes⟩ := Reading.causes_all mem
    rcases causes.derives with fixed | key
    · have valid : ∀ name ∈ derivedNames, Directive.isValidKey name.toList = true := by decide
      have isName := Directive.isName_of_isValidKey (valid _ fixed)
      rwa [String.ofList_toList] at isName
    · rw [key]
      have isName := Directive.isName_of_isValidKey (Directive.isValidKey_of_parse? given)
      rwa [String.ofList_toList] at isName
  · rw [AttributeSet.text_collect (by decide) folded, Directive.readings,
      Reading.filter_all (Reading.onId_ofDirective kind) read, List.filterMap_eq_flatMap_toList]
  · intro directive given id marked
    exact Directive.isName_of_marked? (Directive.isValidKey_of_parse? given) marked
  · have given := AttributeSet.listsOf_collect folded name items mem token listed
    rw [Directive.readings, Reading.filter_all (Reading.isToken_ofDirective kind) read,
      List.mem_flatMap] at given
    obtain ⟨directive, given, mem⟩ := given
    exact Directive.isClassToken_of_classTokens (Directive.isValidKey_of_parse? given) mem

/-- Markup in a value, in keys and between quotes, an id with a blank and one behind a `#`. -/
def markupTitle : String :=
  "A > .a.b #hero class='c \td' onload='\"><b>' <x \"y z\" a/b=1 .it's 4x3 id=\"1 2\" #last"

def markupSet : AttributeSet :=
  [("class", .tokens ["a.b", "c", "d"]), ("id", .text "last"), ("onload", .text "\"><b>"),
    ("width", .text "4"), ("height", .text "3")]

theorem names_collected_markupTitle :
    Title.collected "img" (some markupTitle) = .ok markupSet ∧
      (∀ name ∈ ["class", "id", "onload", "width", "height"], IsName name) ∧
      Entries.get? "id" markupSet = some (.text "last") ∧ IsName "last" ∧
      ∀ token ∈ ["a.b", "c", "d"], IsClassToken token := by
  have collected : Title.collected "img" (some markupTitle) = .ok markupSet := by decide +kernel
  obtain ⟨names, ⟨-, ids⟩, tokens⟩ := names_collected collected
  have marked : .flag "#last" ∈ (Title.parse? (some markupTitle)).directives := by decide +kernel
  exact ⟨collected, names, rfl, ids _ marked "last" (by decide),
    tokens "class" _ List.mem_cons_self⟩

end MediaMarkup
