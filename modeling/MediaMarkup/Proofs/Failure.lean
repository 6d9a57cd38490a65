import MediaMarkup.Proofs.Derived
import MediaMarkup.Proofs.Entries
import MediaMarkup.Proofs.LevelRun

/-!
A media element that cannot be enriched is left as it was. What can fail is collecting the
attributes of a title, and that comes before the first edit: a style that a title derives is made of
declarations (`Request.styleDeclared`), so it can be merged into whatever style there is, and a
class that is no expression takes every token. Beyond that only markup can refuse what it is given,
and then some attributes may be edited already (`visitor_outcome`). Main statement:
`visitor_fails_first`.
-/

namespace MediaMarkup

/-! ## Derived styles -/

namespace AttributeSet

/-- A style in an attribute set is made of declarations. -/
def StyleDeclared (set : AttributeSet) : Prop :=
  ∀ value, ("style", value) ∈ set → ∃ declarations, value = .declarations declarations

theorem StyleDeclared.put {set : AttributeSet} (declared : set.StyleDeclared) {name : String}
    {value : Derived} (new : name = "style" → ∃ declarations, value = .declarations declarations) :
    StyleDeclared (Entries.put name value set) := by
  intro other mem
  rcases Entries.mem_put mem with old | same
  · exact declared other old
  · cases same
    exact new rfl

theorem StyleDeclared.add {set next : AttributeSet} (declared : set.StyleDeclared) {effect : Effect}
    (declares : effect.attributeName = "style" → effect.category = .style)
    (added : AttributeSet.add effect set = .ok next) : next.StyleDeclared := by
  cases adds_of_add added with
  | listed | unnoticed => exact declared
  | token | firstToken => exact declared.put (by simp)
  | declaration | firstDeclaration => exact declared.put fun _ => ⟨_, rfl⟩
  | text plain =>
    refine declared.put fun same => ?_
    rw [attributeName_of_plain plain] at declares
    exact absurd (declares same) fun isStyle => plain (by simp [isStyle])

/-- The style of a set is made of declarations if only declarations are effects on the style. -/
theorem styleDeclared_collect {effects : List Effect} {set : AttributeSet}
    (collected : collect effects = .ok set)
    (declare : ∀ effect ∈ effects, effect.attributeName = "style" → effect.category = .style) :
    set.StyleDeclared :=
  foldlM_keeps collected
    (fun effect mem _ _ added declared => declared.add (declare effect mem) added)
    (by rintro value ⟨⟩)

end AttributeSet

/-- The style that a title derives is made of declarations. -/
theorem Request.styleDeclared {request : Request} {derived : AttributeSet}
    (derives : request.derive = .ok derived) : derived.StyleDeclared := by
  obtain ⟨effects, collected, caused⟩ := effects_of_derived derives
  refine AttributeSet.styleDeclared_collect collected fun effect mem => ?_
  obtain ⟨directive, -, causes⟩ := caused effect mem
  exact causes.declares

/-! ## Merging -/

namespace Attributes

/-- The class is no expression. -/
def ClassPlain (attributes : Attributes) : Prop :=
  ∀ expression, Entries.get? "class" attributes ≠ some (.expression expression)

variable {attributes : Attributes}

theorem ClassPlain.put (plain : attributes.ClassPlain) {name : String} {value : Attribute}
    (new : name = "class" → ∀ expression, value ≠ .expression expression) :
    ClassPlain (Entries.put name value attributes) := by
  intro expression
  by_cases same : "class" = name
  · rw [← same, Entries.get?_put_self]
    exact fun h => new same.symm expression (Option.some.inj h)
  · rw [Entries.get?_put_of_ne same]
    exact plain expression

theorem ClassPlain.setText (plain : attributes.ClassPlain) (name value : String) :
    (attributes.setText name value).ClassPlain :=
  plain.put fun _ _ => by simp

theorem ClassPlain.erase (plain : attributes.ClassPlain) {name : String} (other : "class" ≠ name) :
    ClassPlain (Entries.erase name attributes) := by
  intro expression
  rw [Entries.get?_erase_of_ne other]
  exact plain expression

/-- A value can be merged if the class is no expression and the value, as a style, is made of
declarations. -/
theorem mergeValue_ok (plain : attributes.ClassPlain) {name : String} {value : Derived}
    (declared : name = "style" → ∃ declarations, value = .declarations declarations) :
    ∃ merged, mergeValue name value attributes = .ok merged ∧
      (name ≠ "style" → ∀ expression, merged ≠ .expression expression) := by
  by_cases isClass : name = "class"
  · rw [mergeValue, if_pos isClass, mergeClass]
    cases existing : Entries.get? "class" attributes with
    | none => exact ⟨_, rfl, by simp⟩
    | some old =>
      cases old with
      | text | bare => exact ⟨_, rfl, by simp⟩
      | expression expression => exact absurd existing (plain expression)
  · rw [mergeValue, if_neg isClass]
    by_cases isStyle : name = "style"
    · obtain ⟨declarations, rfl⟩ := declared isStyle
      rw [if_pos isStyle]
      exact ⟨_, rfl, fun other => absurd isStyle other⟩
    · rw [if_neg isStyle]
      exact ⟨_, rfl, by simp⟩

/-- An attribute that is set has the name that the format reads. The style keeps its own. -/
theorem of_put {format : Format} {name : String} {value : Attribute} {next : Attributes}
    (set : format.put name value attributes = .ok next) :
    ∃ read, next = Entries.put read value attributes ∧ (name = "style" → read = "style") := by
  cases named : format.readName name with
  | error refusal => simp [Format.put, named, bind, Except.bind] at set
  | ok read =>
    simp only [Format.put, named, bind, Except.bind, pure, Except.pure] at set
    split at set
    · cases set
    · cases set
      refine ⟨read, rfl, ?_⟩
      rintro rfl
      have style : format.readName "style" = .ok "style" := by cases format <;> decide
      exact (Except.ok.inj (style.symm.trans named)).symm

/-- Where the class is no expression, only markup refuses to merge what a title derives. -/
theorem refusal_of_merge {format : Format} {derived : AttributeSet} {cause : MergeError}
    (plain : attributes.ClassPlain) (declared : derived.StyleDeclared)
    (failed : (attributes.merge format derived).failure = some cause) :
    format = .markup ∧ ∃ refusal, cause = .format refusal := by
  induction derived generalizing attributes with
  | nil => cases failed
  | cons entry rest ih =>
    obtain ⟨name, value⟩ := entry
    have later : AttributeSet.StyleDeclared rest := fun value mem =>
      declared value (List.mem_cons_of_mem _ mem)
    have here : name = "style" → ∃ declarations, value = .declarations declarations := by
      rintro rfl
      exact declared value List.mem_cons_self
    rw [merge] at failed
    split at failed
    · exact ih plain later failed
    · obtain ⟨merged, ok, kept⟩ := mergeValue_ok plain here
      simp only [mergeEntry, ok] at failed
      cases written : format.put name merged attributes with
      | error refusal =>
        simp only [written, Except.mapError, Option.some.injEq] at failed
        refine ⟨?_, refusal, failed.symm⟩
        cases format with
        | data => cases (Format.put_data name merged attributes).symm.trans written
        | markup => rfl
      | ok next =>
        simp only [written, Except.mapError] at failed
        obtain ⟨read, rfl, style⟩ := of_put written
        refine ih (plain.put fun isClass => kept ?_) later failed
        intro isStyle
        exact absurd (isClass.symm.trans (style isStyle)) (by decide)

/-- Merging a derived set does not fail if the class is no expression. -/
theorem failure_merge {derived : AttributeSet} (plain : attributes.ClassPlain)
    (declared : derived.StyleDeclared) : (attributes.merge .data derived).failure = none := by
  cases failed : (attributes.merge .data derived).failure with
  | none => rfl
  | some cause => cases (refusal_of_merge plain declared failed).1

end Attributes

namespace Request

variable {request : Request} {head : Head}

/-- The edits before the merge leave the class. -/
theorem classPlain_editAttributes (plain : head.attributes.ClassPlain) :
    (request.editAttributes head.tag head.attributes).ClassPlain := by
  have alt : (request.editAlt head.tag
      (head.attributes.setText "src" request.link.source)).ClassPlain := by
    unfold editAlt
    split
    · exact plain.setText _ _
    · split
      · exact (plain.setText _ _).setText _ _
      · exact (plain.setText _ _).erase (by decide)
  unfold editAttributes editTitle
  split
  · exact alt
  · split
    · exact alt.erase (by decide)
    · exact alt.setText _ _

end Request

/-! ## Failing -/

/-- The attribute set of a title on an element of a kind. -/
def Title.collected (kind : String) (title : Option String) : Except TitleError AttributeSet := do
  let effects ← Directive.interpret kind (Title.parse? title).directives
  AttributeSet.collect effects

namespace Head

/-- The kind of a media element with a source, in the end. -/
def kindOf (source : String) (head : Head) : String :=
  if head.tag = Kind.image.tag then (Media.ofSource (Link.ofSource source false).source).kind.tag
  else head.tag

/-- A media element fails if it has a source and the attributes of its title cannot be collected. -/
def Fails (head : Head) : Prop :=
  ∃ source, head.attributes.text? "src" = some source ∧ source ≠ "" ∧
    ∃ cause, Title.collected (head.kindOf source) (head.attributes.text? "title") = .error cause

variable {head : Head} {insideLink : Bool}

theorem not_fails_of_unasked (unasked : Request.ofHead? head insideLink = none) : ¬head.Fails := by
  rintro ⟨source, present, nonempty, -⟩
  have noSource := Request.source?_of_unasked unasked
  rw [source?, present, Option.filter_some, if_pos (by simpa using nonempty)] at noSource
  cases noSource

theorem derive_eq {request : Request} (asked : Request.ofHead? head insideLink = some request) :
    ∃ source, head.attributes.text? "src" = some source ∧ source ≠ "" ∧
      request.derive =
        Title.collected (head.kindOf source) (head.attributes.text? "title") := by
  obtain ⟨source, present, nonempty, -, link, media, kind, titleText, title⟩ :=
    Request.ofHead?_eq_some asked
  refine ⟨source, present, nonempty, ?_⟩
  rw [Request.derive, Title.collected, kindOf, title, titleText, kind, media, link,
    Link.source_ofSource source insideLink]

theorem fails_iff {request : Request} (asked : Request.ofHead? head insideLink = some request) :
    head.Fails ↔ ∃ cause, request.derive = .error cause := by
  obtain ⟨source, present, nonempty, derives⟩ := derive_eq asked
  rw [derives]
  constructor
  · rintro ⟨other, present', -, fails⟩
    rw [present, Option.some.injEq] at present'
    exact present' ▸ fails
  · intro fails
    exact ⟨source, present, nonempty, fails⟩

theorem not_fails_of_derives {request : Request} {derived : AttributeSet}
    (asked : Request.ofHead? head insideLink = some request)
    (derives : request.derive = .ok derived) : ¬head.Fails := by
  rw [fails_iff asked, derives]
  rintro ⟨cause, ⟨⟩⟩

end Head

theorem Change.Handled.not_fails {format : Format} {settings : Settings} {site : Site}
    {head : Head} {children : List Node} {change : Change}
    (handled : Handled format settings site head children change) : ¬head.Fails := by
  cases handled with
  | untouched unasked => exact Head.not_fails_of_unasked unasked
  | changed asked derives => exact Head.not_fails_of_derives asked derives

/-- What a format has refused, if that is why an element failed. -/
def EnrichError.refusal? : EnrichError → Option FormatError
  | .format refusal | .merge (.format refusal) => some refusal
  | _ => none

/-- An element with a plain class that fails is left with its head as it was, unless markup has
refused something. -/
theorem Change.Refused.of_classPlain {format : Format} {settings : Settings} {site : Site}
    {head : Head} {children : List Node} {failure : Failure}
    (refused : Refused format settings site head children failure)
    (plain : head.attributes.ClassPlain) :
    (head.Fails ∧ failure.head = head) ∨
      (¬head.Fails ∧ format = .markup ∧ failure.cause.refusal?.isSome = true) := by
  -- Plain data refuses neither the texts of the edits nor what is completed.
  cases refused with
  | collecting asked fails => exact .inl ⟨(Head.fails_iff asked).mpr ⟨_, fails⟩, rfl⟩
  | editing asked derives refuses =>
    refine .inr ⟨Head.not_fails_of_derives asked derives, ?_, rfl⟩
    cases format with
    | data => cases (Format.checkTexts_data _).symm.trans refuses
    | markup => rfl
  | merging asked derives fails =>
    obtain ⟨isMarkup, refusal, rfl⟩ := Attributes.refusal_of_merge
      (Request.classPlain_editAttributes plain) (Request.styleDeclared derives) fails
    exact .inr ⟨Head.not_fails_of_derives asked derives, isMarkup, rfl⟩
  | @completing request derived _ _ _ asked derives merges refuses =>
    refine .inr ⟨Head.not_fails_of_derives asked derives, ?_, rfl⟩
    cases format with
    | data =>
      obtain ⟨change, completed⟩ := complete_data settings request (request.plan site) site
        { head with attributes := (request.merge .data derived head).attributes } children
      cases completed.symm.trans refuses
    | markup => rfl

/-! ## Calls of the visitor -/

theorem addCaption_none (settings : Settings) (outer : List Frame) :
    addCaption settings none outer = outer := by
  cases outer with
  | nil => rfl
  | cons frame outer => simp [addCaption, captionFront, captionBack]

namespace Place

/-- The level of a place. -/
def level (place : Place) : Level :=
  ⟨place.head, place.outer.head?.map (·.head.tag),
    (place.outer.head?.map fun frame => hasFigcaption (frame.before ++ frame.after)).getD false,
    none, none⟩

/-- A walk with the chain of its place stands on the level of the place. -/
theorem stands (settings : Settings) (place : Place) {σ : Type} (memory : σ) :
    Walk.Stands settings place.level place.children place.tail place.outer
      ⟨place, place.chain, memory⟩ where
  place_eq := by
    show place = ⟨place.head, place.children, place.tail, addCaption settings none place.outer⟩
    rw [addCaption_none]
  coherent := rfl
  fits := ⟨rfl, rfl, ⟨by simp [level], by simp [level]⟩⟩

end Place

/-- A call of the visitor that fails edits its element at most. -/
theorem Enrich.visitor_refused {format : Format} {settings : Settings} {walk : Walk.Enriching}
    {index : Nat} {head : Head} {children : List Node} {tail : String} {failure : Failure}
    (here : walk.place.children[index]? = some (.element head children tail))
    (failed : Change.ofElement format settings (walk.site tail) head children = .error failure) :
    ∃ left, visitor format settings walk index = .error (failure.cause, left) ∧
      left.place = walk.place.setChild index (.element failure.head children tail) ∧
      left.ancestors = walk.ancestors := by
  simp only [visitor, here, failed]
  exact ⟨_, rfl, rfl, rfl⟩

/-- **What a call of the visitor comes to,** in every format. For an element whose class is no
expression, with the chain above it as its ancestors, it leaves all as it was if the title's
attributes cannot be collected. Else it answers where the changed element stands, with the ancestors
as they are then; or markup refuses a name or a text, and nothing is edited but attributes of the
element. -/
theorem visitor_outcome (format : Format) (settings : Settings) (place : Place)
    (events : List Event) {index : Nat} {head : Head} {children : List Node} {tail : String}
    (here : place.children[index]? = some (.element head children tail))
    (plain : head.attributes.ClassPlain) :
    (head.Fails ∧ ∃ cause left,
      Enrich.visitor format settings ⟨place, place.chain, events⟩ index = .error (cause, left) ∧
        left.place = place ∧ left.ancestors = place.chain) ∨
      (¬head.Fails ∧ ∃ change position next,
        Change.ofElement format settings (Walk.site tail ⟨place, place.chain, events⟩) head
            children = .ok change ∧
          Enrich.visitor format settings ⟨place, place.chain, events⟩ index =
            .ok (some position, next) ∧
          next.place.children[position]? = some (change.slot.withTail tail) ∧
          next.ancestors = next.place.chain) ∨
      (¬head.Fails ∧ format = .markup ∧ ∃ cause left attributes,
        Enrich.visitor format settings ⟨place, place.chain, events⟩ index = .error (cause, left) ∧
          cause.refusal?.isSome = true ∧
          left.place = place.setChild index (.element { head with attributes } children tail) ∧
          left.ancestors = place.chain) := by
  cases done : Change.ofElement format settings (Walk.site tail ⟨place, place.chain, events⟩) head
      children with
  | error failure =>
    obtain ⟨left, called, place_eq, ancestors_eq⟩ := Enrich.visitor_refused here done
    have refused := Change.ofElement_refused done
    rcases refused.of_classPlain plain with ⟨fails, kept⟩ | ⟨works, isMarkup, refusal⟩
    · refine .inl ⟨fails, failure.cause, left, called, ?_, ancestors_eq⟩
      rw [place_eq, kept]
      exact Place.setChild_self here
    · obtain ⟨attributes, head_eq⟩ := refused.head_eq
      exact .inr (.inr ⟨works, isMarkup, failure.cause, left, attributes, called, refusal,
        head_eq ▸ place_eq, ancestors_eq⟩)
  | ok change =>
    have stands := place.stands settings events
    have length_eq : (place.children.take index).length = index := by
      have bound := (List.getElem?_eq_some_iff.mp here).1
      rw [List.length_take]
      omega
    rw [← Place.split_children here] at stands
    obtain ⟨next, called, next'⟩ := stands.visitor_of_ok done
    rw [length_eq] at called
    refine .inr (.inl ⟨(Change.ofElement_handled done).not_fails, change, _, next, rfl, called, ?_,
      next'.coherent⟩)
    rw [next'.children_eq]
    simp

/-- **An element that cannot be enriched is left as it was.** A call of the visitor for an element
whose class is no expression, with the chain above it as its ancestors, fails just when the element
has a source and the attributes of its title cannot be collected, and then it has edited neither the
document nor the ancestors. Else it answers where the changed element stands, with the ancestors as
they are then. -/
theorem visitor_fails_first (settings : Settings) (place : Place) (events : List Event)
    {index : Nat} {head : Head} {children : List Node} {tail : String}
    (here : place.children[index]? = some (.element head children tail))
    (plain : head.attributes.ClassPlain) :
    (head.Fails ∧ ∃ cause left,
      Enrich.visitor .data settings ⟨place, place.chain, events⟩ index = .error (cause, left) ∧
        left.place = place ∧ left.ancestors = place.chain) ∨
      (¬head.Fails ∧ ∃ change position next,
        Change.ofElement .data settings (Walk.site tail ⟨place, place.chain, events⟩) head
            children = .ok change ∧
          Enrich.visitor .data settings ⟨place, place.chain, events⟩ index =
            .ok (some position, next) ∧
          next.place.children[position]? = some (change.slot.withTail tail) ∧
          next.ancestors = next.place.chain) := by
  rcases visitor_outcome .data settings place events here plain with
    failed | completed | ⟨-, isMarkup, -⟩
  · exact .inl failed
  · exact .inr completed
  · cases isMarkup

/-- An image whose title makes the class a text before a token, with an expression as its style. -/
def clashingImage : Head :=
  .new "img" [("src", .text "((x.png))"), ("style", .expression ⟨[("width", .text "1px")]⟩),
    ("title", .text "text > class .a")] ""

/-- A figure in a link, with the image in it. -/
def clashingPlace : Place :=
  ⟨.new "figure" [] "", [.element clashingImage [] "behind"], "",
    [⟨.new "a" [] "", [.comment "note" ""], [], ""⟩]⟩

theorem visitor_fails_first_clashingImage :
    (clashingPlace.children[0]? = some (.element clashingImage [] "behind") ∧
        clashingImage.attributes.ClassPlain) ∧
      ∃ cause left,
        Enrich.visitor .data .default ⟨clashingPlace, clashingPlace.chain, []⟩ 0 =
            .error (cause, left) ∧
          left.place = clashingPlace ∧ left.ancestors = clashingPlace.chain := by
  have plain : clashingImage.attributes.ClassPlain := by
    intro expression present
    cases present
  have fails : clashingImage.Fails := by
    refine ⟨"((x.png))", rfl, by decide, ?_⟩
    have nothing : (Title.collected (clashingImage.kindOf "((x.png))")
        (clashingImage.attributes.text? "title")).toOption = none := by decide +kernel
    cases collected : Title.collected (clashingImage.kindOf "((x.png))")
        (clashingImage.attributes.text? "title") with
    | error cause => exact ⟨cause, rfl⟩
    | ok set =>
      rw [collected] at nothing
      cases nothing
  have here : clashingPlace.children[0]? = some (.element clashingImage [] "behind") := rfl
  refine ⟨⟨here, plain⟩, ?_⟩
  rcases visitor_fails_first .default clashingPlace [] here plain with ⟨-, failed⟩ | ⟨works, -⟩
  · exact failed
  · exact absurd fails works

end MediaMarkup
