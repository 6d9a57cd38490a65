import Mathlib.Data.List.Induction
import MediaMarkup.Proofs.Readings
import MediaMarkup.Proofs.TitleTokens

/-!
The class that a title gives. Class tokens gather in a list, and the flag `class` sets the class to
an empty text, which loses the tokens before it and takes none behind it. So the class is the list
of the distinct tokens unless there are tokens and that flag (`unitesClasses_iff`), and collecting
the attributes of a title fails just when a token comes behind that flag (`failing_titles`).
-/

namespace MediaMarkup

namespace Directive

/-- A directive gives a class token: a flag behind a dot, or a value of `class` that is not
blank. -/
inductive GivesClass : Directive → Prop
  | flag {key : String} {name : List Char} (marked : key.toList = '.' :: name)
    (nonempty : name ≠ []) : GivesClass (.flag key)
  | pair {value : String} (nonblank : Text.isBlankText value.toList = false) :
    GivesClass (.pair "class" value)

/-- The flag `class` stands somewhere, and a class token is given behind it. -/
def ClassClash (directives : List Directive) : Prop :=
  ∃ i j : Nat, i < j ∧ directives[i]? = some (Directive.flag "class") ∧
    ∃ directive : Directive, directives[j]? = some directive ∧ directive.GivesClass

/-- The attribute set of directives on an element of a kind. -/
def collected (kind : String) (directives : List Directive) : Except TitleError AttributeSet := do
  let effects ← interpret kind directives
  AttributeSet.collect effects

/-- The class of an attribute set unites the tokens that directives give: it lists the distinct ones
in the order in which they came first, and without tokens it is empty if it is there at all. -/
structure UnitesClasses (directives : List Directive) (set : AttributeSet) : Prop where
  listed : directives.flatMap classTokens ≠ [] →
    Entries.get? "class" set = some (.tokens (directives.flatMap classTokens).eraseDups)
  empty : directives.flatMap classTokens = [] →
    ∀ value, Entries.get? "class" set = some value → value.isEmpty = true

variable {directive : Directive} {directives : List Directive}

theorem givesClass_iff : directive.GivesClass ↔ directive.classTokens ≠ [] := by
  cases directive with
  | flag key =>
    rw [classTokens, marked?]
    constructor
    · rintro (⟨marked, nonempty⟩ | _)
      simp [marked, nonempty]
    · intro given
      split at given
      · cases given rfl
      · rename_i c name chars
        split at given
        · rename_i marked
          simp only [Bool.and_eq_true, decide_eq_true_eq, Bool.not_eq_true',
            List.isEmpty_eq_false_iff] at marked
          exact .flag (marked.1 ▸ chars) marked.2
        · cases given rfl
  | pair key value =>
    rw [classTokens]
    constructor
    · rintro (_ | nonblank)
      simpa [Classes.split, Text.words_eq_nil] using nonblank
    · intro given
      split at given
      · rename_i isClass
        subst isClass
        exact .pair (by simpa [Classes.split, Text.words_eq_nil] using given)
      · cases given rfl
  | unset key =>
    constructor
    · rintro ⟨⟩
    · intro given
      cases given rfl

/-! ## What directives make of the class -/

/-- What a directive makes of the class: tokens, or the empty text that the flag `class` sets it
to. -/
def classTexts (directive : Directive) : List String :=
  if directive = .flag "class" then [""] else directive.classTokens

/-- A directive of a title gives no empty token. -/
theorem ne_empty_of_classTokens (titled : directive.IsTitled) :
    "" ∉ directive.classTokens :=
  fun mem => (isClassToken_of_classTokens titled.valid mem).nonempty rfl

theorem mem_classTexts (titled : directive.IsTitled) :
    "" ∈ directive.classTexts ↔ directive = .flag "class" := by
  unfold classTexts
  split
  · rename_i isClass
    simp [isClass]
  · rename_i other
    simp [other, ne_empty_of_classTokens titled]

theorem classTexts_of_notMem (noClass : .flag "class" ∉ directives) :
    directives.flatMap classTexts = directives.flatMap classTokens := by
  refine List.flatMap_congr fun directive mem => if_neg ?_
  rintro rfl
  exact noClass mem

theorem mem_flatMap_classTexts (titled : ∀ directive ∈ directives, directive.IsTitled) :
    "" ∈ directives.flatMap classTexts ↔ .flag "class" ∈ directives := by
  rw [List.mem_flatMap]
  constructor
  · rintro ⟨directive, mem, empty⟩
    rwa [← (mem_classTexts (titled directive mem)).mp empty]
  · intro mem
    exact ⟨_, mem, (mem_classTexts (titled _ mem)).mpr rfl⟩

end Directive

namespace Reading

variable {directive : Directive} {kind : String} {sized : Bool} {effect : Effect}

theorem ofDirective_class (value : String) :
    ofDirective kind sized (.pair "class" value) = ofClass value := by
  simp [ofDirective, Directive.key, ofPair]

/-- But for the flag `class`, effects on the class are class tokens. -/
theorem isToken_of_onClass (other : directive ≠ .flag "class")
    (mem : effect ∈ (ofDirective kind sized directive).effectsOf)
    (onClass : effect.attributeName = "class") : effect.isToken = true := by
  cases causes_ofDirective mem with
  | id | declaration | loading => simp [Effect.attributeName] at onClass
  | size side => rcases side with rfl | rfl <;> simp [Effect.attributeName] at onClass
  | token => rfl
  | keyed noStyle key plain =>
    have keyed : directive.key = "class" := by
      simp only [List.mem_cons, List.not_mem_nil, or_false] at plain
      rcases plain with rfl | rfl | rfl <;> exact key.symm.trans onClass
    cases directive with
    | flag key => exact absurd (congrArg Directive.flag keyed) other
    | pair key value =>
      rw [Directive.key] at keyed
      subst keyed
      simp only [ofDirective_class, ofClass, effectsOf, List.mem_map] at mem
      obtain ⟨token, -, same⟩ := mem
      rw [← same]
      rfl
    | unset key =>
      rw [Directive.key] at keyed
      subst keyed
      simp [ofDirective, Directive.key, ofUnset, effectsOf] at mem

/-- A directive makes of the class what it gives. -/
theorem onClass_ofDirective (kind : String) (sized : Bool) (directive : Directive) :
    ((ofDirective kind sized directive).effectsOf.filter (Effect.on "class")).map Effect.value =
      directive.classTexts := by
  unfold Directive.classTexts
  split
  · rename_i isClass
    subst isClass
    have noSize : Effect.dimensions? "class".toList = none := by decide
    simp only [ofDirective, Directive.key, ofFlag, noSize, ite_self]
    exact on_ofPlainFlag kind (by decide)
  · rename_i other
    rw [← isToken_ofDirective kind sized directive]
    congr 1
    refine List.filter_congr fun effect mem => ?_
    rw [Bool.eq_iff_iff]
    constructor
    · intro onClass
      exact isToken_of_onClass other mem (of_decide_eq_true onClass)
    · intro isToken
      simp [Effect.on, Effect.attributeName, of_decide_eq_true isToken]

end Reading

/-! ## Folding effects on the class -/

namespace Effect

/-- An effect as titles have it: a declaration if it is on the style, and on the class a token that
is not empty, or the empty text. -/
structure Proper (effect : Effect) : Prop where
  declares : effect.attributeName = "style" → effect.category = .style
  names : effect.attributeName = "class" → (effect.isToken = true ↔ effect.value ≠ "")

end Effect

namespace Reading

variable {directive : Directive} {kind : String} {sized : Bool} {effect : Effect}

theorem proper_ofDirective (titled : directive.IsTitled)
    (mem : effect ∈ (ofDirective kind sized directive).effectsOf) : effect.Proper := by
  refine ⟨(causes_ofDirective mem).declares, fun onClass => ?_⟩
  have given : effect.value ∈ directive.classTexts := by
    rw [← onClass_ofDirective kind sized]
    exact List.mem_map_of_mem (List.mem_filter.mpr ⟨mem, decide_eq_true onClass⟩)
  constructor
  · intro isToken empty
    have token : effect.value ∈ directive.classTokens := by
      rw [← isToken_ofDirective kind sized]
      exact List.mem_map_of_mem (List.mem_filter.mpr ⟨mem, isToken⟩)
    exact Directive.ne_empty_of_classTokens titled (empty ▸ token)
  · intro nonempty
    refine isToken_of_onClass ?_ mem onClass
    rintro rfl
    rw [Directive.classTexts, if_pos rfl, List.mem_singleton] at given
    exact nonempty given

end Reading

namespace AttributeSet

/-- What texts for the class come to: the empty text once it is among them, else the list of the
distinct tokens. -/
def classEntry (texts : List String) : Option Derived :=
  if "" ∈ texts then some (.text "")
  else if texts = [] then none
  else some (.tokens texts.eraseDups)

/-- No token comes behind the empty text. -/
def Undisturbed (texts : List String) : Prop :=
  texts.Pairwise fun first second => first = "" → second = ""

variable {set : AttributeSet} {effect : Effect} {effects : List Effect} {texts : List String}

theorem collect_concat (effects : List Effect) (effect : Effect) :
    collect (effects ++ [effect]) = (collect effects).bind (add effect) := by
  rw [collect, List.foldlM_append]
  congr 1
  funext set
  rw [List.foldlM_cons]
  cases add effect set <;> rfl

/-- An effect that is not on the class leaves it. -/
theorem add_of_other (declared : set.StyleDeclared) (proper : effect.Proper)
    (other : effect.attributeName ≠ "class") :
    ∃ next, add effect set = .ok next ∧ Entries.get? "class" next = Entries.get? "class" set := by
  obtain ⟨category, name, value⟩ := effect
  cases category with
  | classToken => exact absurd rfl other
  | style =>
    have left (entries : Derived) :
        Entries.get? "class" (Entries.put "style" entries set) = Entries.get? "class" set :=
      Entries.get?_put_of_ne (by decide) entries set
    rw [add, addDeclaration]
    cases present : Entries.get? "style" set with
    | none => exact ⟨_, rfl, left _⟩
    | some old =>
      obtain ⟨entries, rfl⟩ := declared old (Entries.mem_of_get? present)
      exact ⟨_, rfl, left _⟩
  | id | dimension | boolean | other | unset =>
    exact ⟨_, rfl, Entries.get?_put_of_ne (Ne.symm other) _ set⟩

/-- The empty text replaces what the class was. -/
theorem add_of_empty (set : AttributeSet) (texts : List String)
    (onClass : effect.attributeName = "class") (plain : effect.isToken = false)
    (empty : effect.value = "") :
    ∃ next, add effect set = .ok next ∧
      Entries.get? "class" next = classEntry (texts ++ [effect.value]) := by
  obtain ⟨category, name, value⟩ := effect
  have entry : classEntry (texts ++ [value]) = some (.text value) := by
    rw [classEntry, if_pos (by simp [show value = "" from empty]), show value = "" from empty]
  cases category with
  | classToken => cases plain
  | style => simp [Effect.attributeName] at onClass
  | id | dimension | boolean | other | unset =>
    rw [show name = "class" from onClass]
    exact ⟨_, rfl, (Entries.get?_put_self "class" _ set).trans entry.symm⟩

/-- A token goes to the list of the class, if it is not there, but it has no place in a text. -/
theorem addClass_cases {token : String} (nonempty : token ≠ "")
    (known : Entries.get? "class" set = classEntry texts) :
    ("" ∉ texts ∧ ∃ next, addClass token set = .ok next ∧
        Entries.get? "class" next = classEntry (texts ++ [token])) ∨
      ("" ∈ texts ∧ addClass token set = .error .classIsText) := by
  by_cases empty : "" ∈ texts
  · refine .inr ⟨empty, ?_⟩
    have absent : Text.occursIn token.toList "".toList = false := by
      simpa [Text.occursIn] using nonempty
    rw [classEntry, if_pos empty] at known
    simp only [addClass, known, absent, Bool.false_eq_true, ↓reduceIte]
  · refine .inl ⟨empty, ?_⟩
    have grown : classEntry (texts ++ [token]) =
        some (.tokens (texts.eraseDups ++ if token ∈ texts then [] else [token])) := by
      rw [classEntry, if_neg (by simpa using ⟨empty, nonempty⟩), if_neg (by simp),
        List.eraseDups_append]
      by_cases mem : token ∈ texts <;> simp [List.removeAll, mem, List.eraseDups_cons]
    rw [grown]
    rw [classEntry, if_neg empty] at known
    by_cases first : texts = []
    · subst first
      rw [if_pos rfl] at known
      refine ⟨_, by rw [addClass, known], ?_⟩
      exact Entries.get?_put_self "class" _ set
    · rw [if_neg first] at known
      refine ⟨_, by rw [addClass, known], ?_⟩
      by_cases mem : token ∈ texts
      · rw [if_pos (List.mem_eraseDups.mpr mem), known, if_pos mem, List.append_nil]
      · rw [if_neg fun old => mem (List.mem_eraseDups.mp old), if_neg mem]
        exact Entries.get?_put_self "class" _ set

theorem undisturbed_concat {text : String} : Undisturbed (texts ++ [text]) ↔
    Undisturbed texts ∧ ("" ∈ texts → text = "") := by
  rw [Undisturbed, List.pairwise_append]
  constructor
  · rintro ⟨before, -, last⟩
    exact ⟨before, fun empty => last "" empty text (List.mem_singleton_self _) rfl⟩
  · rintro ⟨before, last⟩
    refine ⟨before, List.pairwise_singleton _ _, fun first mem second here empty => ?_⟩
    rw [List.mem_singleton.mp here]
    exact last (empty ▸ mem)

/-- One effect fails just when it is a token and the class is the empty text. Else the class is what
its texts come to, those of the effect included. -/
theorem add_cases (declared : set.StyleDeclared) (proper : effect.Proper) (calm : Undisturbed texts)
    (known : Entries.get? "class" set = classEntry texts) {new : List String}
    (onClass : ([effect].filter (Effect.on "class")).map Effect.value = new) :
    (Undisturbed (texts ++ new) ∧ ∃ next, add effect set = .ok next ∧ next.StyleDeclared ∧
        Entries.get? "class" next = classEntry (texts ++ new)) ∨
      (¬Undisturbed (texts ++ new) ∧ add effect set = .error .classIsText) := by
  have declares {next : AttributeSet} (added : add effect set = .ok next) : next.StyleDeclared :=
    declared.add proper.declares added
  by_cases here : effect.attributeName = "class"
  · obtain rfl : [effect.value] = new := by simpa [Effect.on, here] using onClass
    rw [undisturbed_concat, and_iff_right calm]
    by_cases empty : effect.value = ""
    · have plain : effect.isToken = false := by
        rw [← Bool.not_eq_true, proper.names here]
        exact not_not_intro empty
      obtain ⟨next, added, entry⟩ := add_of_empty set texts here plain empty
      exact .inl ⟨fun _ => empty, next, added, declares added, entry⟩
    · have isToken : effect.category = .classToken :=
        of_decide_eq_true ((proper.names here).mpr empty)
      have adds : add effect set = addClass effect.value set := by rw [add, isToken]
      rcases addClass_cases empty known with ⟨noText, next, added, entry⟩ | ⟨text, failed⟩
      · rw [← adds] at added
        exact .inl ⟨fun text => absurd text noText, next, added, declares added, entry⟩
      · exact .inr ⟨fun calm => empty (calm text), adds.trans failed⟩
  · obtain rfl : [] = new := by simpa [Effect.on, here] using onClass
    obtain ⟨next, added, same⟩ := add_of_other declared proper here
    rw [List.append_nil]
    exact .inl ⟨calm, next, added, declares added, same.trans known⟩

/-- **Folding effects** fails just when a token comes behind the empty text. Else the class is what
its texts come to. -/
theorem collect_cases (proper : ∀ effect ∈ effects, effect.Proper) {texts : List String}
    (onClass : (effects.filter (Effect.on "class")).map Effect.value = texts) :
    (Undisturbed texts ∧ ∃ set, collect effects = .ok set ∧ set.StyleDeclared ∧
        Entries.get? "class" set = classEntry texts) ∨
      (¬Undisturbed texts ∧ collect effects = .error .classIsText) := by
  induction effects using List.reverseRecOn generalizing texts with
  | nil =>
    subst onClass
    exact .inl ⟨.nil, [], rfl, by rintro value ⟨⟩, rfl⟩
  | append_singleton effects effect ih =>
    rw [List.forall_mem_append, List.forall_mem_singleton] at proper
    rw [List.filter_append, List.map_append] at onClass
    subst onClass
    rw [collect_concat]
    rcases ih proper.1 rfl with ⟨calm, set, collected, declared, entry⟩ | ⟨disturbed, failed⟩
    · rw [collected]
      exact add_cases declared proper.2 calm entry rfl
    · rw [failed]
      exact .inr ⟨fun calm => disturbed (List.pairwise_append.mp calm).1, rfl⟩

end AttributeSet

namespace Directive

variable {directive : Directive} {directives : List Directive} {kind : String}

/-- The directives of a title fail together just when a token comes behind the empty text. -/
theorem collected_cases (kind : String)
    (titled : ∀ directive ∈ directives, directive.IsTitled) :
    (AttributeSet.Undisturbed (directives.flatMap classTexts) ∧
        ∃ set, collected kind directives = .ok set ∧
          Entries.get? "class" set = AttributeSet.classEntry (directives.flatMap classTexts)) ∨
      (¬AttributeSet.Undisturbed (directives.flatMap classTexts) ∧
        collected kind directives = .error .classIsText) := by
  have onClass := Reading.filter_all (Reading.onClass_ofDirective kind)
    (Reading.failure?_all kind false titled)
  have proper := Reading.forall_all kind false titled
    fun sized directive mem effect => Reading.proper_ofDirective (titled directive mem)
  rw [collected, interpret_of_titled titled, shares, readings, ← List.flatMap_def]
  rcases AttributeSet.collect_cases proper onClass with ⟨calm, set, collects, -, entry⟩ | failed
  · exact .inl ⟨calm, set, collects, entry⟩
  · exact .inr failed

theorem classEntry_flatMap (titled : ∀ directive ∈ directives, directive.IsTitled) :
    AttributeSet.classEntry (directives.flatMap classTexts) =
      if .flag "class" ∈ directives then some (.text "")
      else if directives.flatMap classTokens = [] then none
      else some (.tokens (directives.flatMap classTokens).eraseDups) := by
  rw [AttributeSet.classEntry]
  by_cases mem : .flag "class" ∈ directives
  · rw [if_pos ((mem_flatMap_classTexts titled).mpr mem), if_pos mem]
  · rw [if_neg fun empty => mem ((mem_flatMap_classTexts titled).mp empty), if_neg mem,
      classTexts_of_notMem mem]

/-- Behind the flag `class` no directive may give a token. -/
theorem calm_iff {first second : Directive} (titled : first.IsTitled ∧ second.IsTitled) :
    (∀ x ∈ first.classTexts, ∀ y ∈ second.classTexts, x = "" → y = "") ↔
      (first = .flag "class" → ¬second.GivesClass) := by
  rw [givesClass_iff, not_not]
  constructor
  · rintro calm rfl
    have empty := fun y mem => calm "" ((mem_classTexts titled.1).mpr rfl) y mem rfl
    by_cases isClass : second = .flag "class"
    · subst isClass
      decide
    · rw [classTexts, if_neg isClass] at empty
      rw [List.eq_nil_iff_forall_not_mem]
      exact fun y mem => ne_empty_of_classTokens titled.2 (empty y mem ▸ mem)
  · rintro calm x here y there rfl
    have none := calm ((mem_classTexts titled.1).mp here)
    unfold classTexts at there
    split at there
    · exact List.mem_singleton.mp there
    · rw [none] at there
      cases there

theorem undisturbed_iff (titled : ∀ directive ∈ directives, directive.IsTitled) :
    AttributeSet.Undisturbed (directives.flatMap classTexts) ↔ ¬ClassClash directives := by
  have alone : ∀ directive ∈ directives,
      directive.classTexts.Pairwise fun first second => first = "" → second = "" := by
    intro directive mem
    unfold classTexts
    split
    · exact List.pairwise_singleton _ _
    · refine List.pairwise_of_forall_mem_list fun x token y _ empty => ?_
      exact absurd (empty ▸ token) (ne_empty_of_classTokens (titled directive mem))
  rw [AttributeSet.Undisturbed, List.pairwise_flatMap, and_iff_right alone,
    List.pairwise_iff_getElem]
  constructor
  · rintro calm ⟨i, j, lt, first, second, here, gives⟩
    obtain ⟨inFirst, first⟩ := List.getElem?_eq_some_iff.mp first
    obtain ⟨inSecond, rfl⟩ := List.getElem?_eq_some_iff.mp here
    exact (calm_iff ⟨titled _ (List.getElem_mem _), titled _ (List.getElem_mem _)⟩).mp
      (calm i j inFirst inSecond lt) first gives
  · intro calm i j inFirst inSecond lt
    refine (calm_iff ⟨titled _ (List.getElem_mem _), titled _ (List.getElem_mem _)⟩).mpr ?_
    intro first gives
    exact calm ⟨i, j, lt, List.getElem?_eq_some_iff.mpr ⟨inFirst, first⟩, _,
      List.getElem?_eq_some_iff.mpr ⟨inSecond, rfl⟩, gives⟩

/-- The class that directives of a title give. -/
theorem class_of_collected (titled : ∀ directive ∈ directives, directive.IsTitled)
    {set : AttributeSet} (collects : collected kind directives = .ok set) :
    Entries.get? "class" set =
      if .flag "class" ∈ directives then some (.text "")
      else if directives.flatMap classTokens = [] then none
      else some (.tokens (directives.flatMap classTokens).eraseDups) := by
  rcases collected_cases kind titled with ⟨-, other, same, entry⟩ | ⟨-, failed⟩
  · rw [collects, Except.ok.injEq] at same
    rw [same, entry, classEntry_flatMap titled]
  · rw [collects] at failed
    cases failed

/-- **Class tokens are united unless the flag `class` comes between.** The class that directives
give is empty where that flag is among them, and else lists the distinct tokens in the order in
which they came first; so no token is lost just when there is no such flag or no token. -/
theorem unitesClasses_iff {text : List Char} {set : AttributeSet}
    (collects : collected kind (Title.readDirectives text) = .ok set) :
    Entries.get? "class" set =
        (if .flag "class" ∈ Title.readDirectives text then some (.text "")
          else if (Title.readDirectives text).flatMap classTokens = [] then none
          else some (.tokens ((Title.readDirectives text).flatMap classTokens).eraseDups)) ∧
      (UnitesClasses (Title.readDirectives text) set ↔
        .flag "class" ∉ Title.readDirectives text ∨
          (Title.readDirectives text).flatMap classTokens = []) := by
  have entry := class_of_collected isTitled_of_readDirectives collects
  generalize Title.readDirectives text = directives at entry ⊢
  refine ⟨entry, ?_⟩
  by_cases mem : .flag "class" ∈ directives
  · rw [if_pos mem] at entry
    simp only [mem, not_true_eq_false, false_or]
    constructor
    · intro unites
      by_contra tokens
      rw [unites.listed tokens] at entry
      cases entry
    · intro none
      refine ⟨absurd none, fun _ value present => ?_⟩
      rw [entry, Option.some.injEq] at present
      exact present ▸ rfl
  · rw [if_neg mem] at entry
    simp only [mem, not_false_eq_true, true_or, iff_true]
    refine ⟨fun tokens => by rw [entry, if_neg tokens], fun none value present => ?_⟩
    rw [entry, if_pos none] at present
    cases present

/-- Tokens behind dots and in a value, some of them twice. -/
theorem unitesClasses_iff_severalTokens :
    collected "img" (Title.readDirectives ".b class='c b\ta' #id .a .d".toList) =
        .ok [("class", .tokens ["b", "c", "a", "d"]), ("id", .text "id")] ∧
      UnitesClasses (Title.readDirectives ".b class='c b\ta' #id .a .d".toList)
        [("class", .tokens ["b", "c", "a", "d"]), ("id", .text "id")] := by
  have collects : collected "img" (Title.readDirectives ".b class='c b\ta' #id .a .d".toList) =
      .ok [("class", .tokens ["b", "c", "a", "d"]), ("id", .text "id")] := by decide +kernel
  exact ⟨collects, (unitesClasses_iff collects).2.mpr (.inl (by decide +kernel))⟩

/-- The flag `class` loses the token before it. -/
theorem not_unitesClasses_tokenBeforeFlag :
    collected "img" (Title.readDirectives " .a class".toList) = .ok [("class", .text "")] ∧
      ¬UnitesClasses (Title.readDirectives " .a class".toList) [("class", .text "")] := by
  refine ⟨by decide +kernel, fun unites => ?_⟩
  have entry := unites.listed (by decide +kernel)
  cases entry

end Directive

/-- **Which titles fail.** Reading a title starts over twice at most, and interpreting its
directives on an element of any kind does not fail. Collecting their attributes fails just when the
flag `class` stands somewhere and a class token is given behind it, since the class is then a
text. -/
theorem failing_titles (kind title : String) :
    ((Title.tokens ((Title.split title.toList).2.getD [])).filterMap
        Title.Token.unclosed?).length ≤ 2 ∧
      (∃ effects, Directive.interpret kind (Title.parse title).directives = .ok effects) ∧
      ∀ cause, Title.collected kind (some title) = .error cause ↔
        cause = .classIsText ∧ Directive.ClassClash (Title.parse title).directives := by
  have titled : ∀ directive ∈ (Title.parse title).directives, directive.IsTitled :=
    Directive.isTitled_of_readDirectives
  refine ⟨(Title.length_unclosed_le _).trans (Title.quoteKinds_le_two _),
    ⟨_, Directive.interpret_of_titled titled⟩, fun cause => ?_⟩
  have outcome := Directive.collected_cases kind titled
  rw [Directive.undisturbed_iff titled, not_not] at outcome
  change Directive.collected kind (Title.parse title).directives = _ ↔ _
  rcases outcome with ⟨calm, set, collects, -⟩ | ⟨clash, fails⟩
  · rw [collects]
    constructor
    · rintro ⟨⟩
    · rintro ⟨-, clash⟩
      exact absurd clash calm
  · rw [fails]
    constructor
    · rintro ⟨⟩
      exact ⟨rfl, clash⟩
    · rintro ⟨rfl, -⟩
      rfl

example : Title.collected "video" (some "> .a class lazy style=a:b class=' b'") =
    .error .classIsText := by decide +kernel

end MediaMarkup
