import MediaMarkup.Proofs.Level
import MediaMarkup.Proofs.Walk

/-!
The walk of an enriching pass is a pass over levels: a run that ends leaves what `Pass` relates to
the children that it had before it (`run_pass`), and hence so does the walk over a whole document
(`enrich_pass`). The invariant is `Walk.Stands`: the place is the level's in its frames, and the
list of ancestors is the chain of that place.
-/

namespace MediaMarkup

/-! ## Frames around a level -/

/-- The frames around an open element after the innermost got a figcaption. -/
def addCaption (settings : Settings) (caption : Option Node) : List Frame → List Frame
  | [] => []
  | frame :: outer =>
    { frame with
      before := captionFront settings caption ++ frame.before
      after := frame.after ++ captionBack settings caption } :: outer

namespace Level

/-- The place of an open element that had `outer` around it and `tail` behind it when the walk came
to it. -/
def placeIn (settings : Settings) (children : List Node) (tail : String) (outer : List Frame)
    (level : Level) : Place :=
  match level.link with
  | some link =>
    ⟨level.head, children, "", ⟨link, [], [], tail⟩ :: addCaption settings level.caption outer⟩
  | none => ⟨level.head, children, tail, addCaption settings level.caption outer⟩

/-- What a level knows of its frames is right. -/
structure Fits (outer : List Frame) (level : Level) : Prop where
  outer_eq : level.outer = outer.head?.map (·.head.tag)
  captioned_eq : level.outerCaptioned =
    (outer.head?.map fun frame => hasFigcaption (frame.before ++ frame.after)).getD false
  regular : level.Regular

end Level

/-- The walk stands on a level with these children. -/
structure Walk.Stands {σ : Type} (settings : Settings) (level : Level) (children : List Node)
    (tail : String) (outer : List Frame) (walk : Walk σ) : Prop where
  place_eq : walk.place = level.placeIn settings children tail outer
  coherent : walk.ancestors = walk.place.chain
  fits : level.Fits outer

/-! ## What the visitor reads -/

namespace Walk.Stands

section

variable {σ : Type} {settings : Settings} {level : Level} {children : List Node} {tail : String}
  {outer : List Frame} {walk : Walk σ}

theorem head_eq (stands : walk.Stands settings level children tail outer) :
    walk.place.head = level.head := by
  rw [stands.place_eq]
  unfold Level.placeIn
  cases level.link <;> rfl

theorem children_eq (stands : walk.Stands settings level children tail outer) :
    walk.place.children = children := by
  rw [stands.place_eq]
  unfold Level.placeIn
  cases level.link <;> rfl

/-- Changing the children of the open element keeps the walk on its level. -/
theorem withChildren (stands : walk.Stands settings level children tail outer)
    (children' : List Node) :
    Walk.Stands settings level children' tail outer
      { walk with place := walk.place.withChildren children' } where
  place_eq := by
    rw [stands.place_eq]
    unfold Level.placeIn
    cases level.link <;> rfl
  coherent := stands.coherent
  fits := stands.fits

end

variable {format : Format} {settings : Settings} {level : Level} {children : List Node}
  {tail : String} {outer : List Frame} {walk : Walk (List Event)}

theorem around_eq (stands : walk.Stands settings level children tail outer) :
    level.around = walk.place.outer.head?.map (·.head.tag) := by
  rw [stands.place_eq]
  unfold Level.around Level.placeIn
  cases level.link with
  | some link => rfl
  | none => cases outer <;> exact stands.fits.outer_eq

theorem ancestors_eq (stands : walk.Stands settings level children tail outer) :
    walk.ancestors = level.head :: walk.place.outer.map Frame.head := by
  rw [stands.coherent, stands.place_eq]
  unfold Place.chain Level.placeIn
  cases level.link <;> rfl

theorem surroundings_eq (stands : walk.Stands settings level children tail outer) :
    walk.surroundings = level.surroundings := by
  rw [Walk.surroundings, stands.ancestors_eq, List.map_cons, Surroundings.ofTags_cons,
    Level.surroundings, stands.around_eq]
  cases walk.place.outer <;> rfl

theorem linkable_eq (stands : walk.Stands settings level children tail outer) :
    walk.linkable = level.around.isSome := by
  rw [Walk.linkable, stands.ancestors_eq, stands.around_eq]
  cases walk.place.outer <;> simp

theorem captioned_eq (stands : walk.Stands settings level children tail outer) :
    walk.captioned = level.captioned children := by
  unfold Walk.captioned Level.captioned
  rw [stands.surroundings_eq]
  match h : level.surroundings.figure? with
  | none => rfl
  | some 0 => simp only [stands.children_eq]
  | some (n + 1) =>
    have one : level.surroundings.figure? = some 1 := by
      revert h
      cases level.surroundings <;> simp [Surroundings.figure?]
    obtain ⟨-, inFigure⟩ := Surroundings.ofTags_linkInFigure one
    have noLink := Level.link_eq_none_of_linkInFigure stands.fits.regular one
    have placed := stands.place_eq
    simp only [Level.around, noLink] at inFigure
    simp only [Level.placeIn, noLink] at placed
    have outerTag := stands.fits.outer_eq
    have outerCaptioned := stands.fits.captioned_eq
    cases outer with
    | nil => simp [inFigure] at outerTag
    | cons frame outer =>
      rw [placed]
      simp only [addCaption, outerCaptioned, List.head?_cons, Option.map_some, Option.getD_some]
      exact hasFigcaption_addCaption stands.fits.regular.caption frame.before frame.after

/-! ## One call of the visitor -/

/-- A figcaption for the figure around the open link goes into its frame. -/
theorem addToParent {caption : Node} (stands : walk.Stands settings level children tail outer)
    (inLink : level.surroundings.figure? = some 1) (first : level.caption = none)
    (isCaption : ∃ text, caption = figcaption text) :
    Walk.Stands settings { level with caption := some caption } children tail outer
      { walk with place := walk.place.addToParent settings.captionsAbove caption } := by
  have noLink := Level.link_eq_none_of_linkInFigure stands.fits.regular inLink
  have placed := stands.place_eq
  simp only [Level.placeIn, noLink, first] at placed
  refine ⟨?_, ?_, stands.fits.outer_eq, stands.fits.captioned_eq,
    stands.fits.regular.link, ?_⟩
  · simp only [Level.placeIn, noLink, placed]
    cases outer with
    | nil => rfl
    | cons frame outer =>
      cases h : settings.captionsAbove <;>
        simp [addCaption, Place.addToParent, captionFront, captionBack, h]
  · rw [stands.coherent]
    simp only [placed]
    cases outer with
    | nil => rfl
    | cons frame outer => cases settings.captionsAbove <;> rfl
  · intro node h
    cases h
    exact isCaption

/-- A link around the open figure becomes the innermost frame. -/
theorem linkParent {link : Head} (stands : walk.Stands settings level children tail outer)
    (inFigure : level.surroundings = .figure) (isLink : ∃ href, link = anchor href) :
    (walk.linkParent link).Stands settings { level with link := some link } children tail
      outer := by
  have noLink := Level.link_eq_none_of_figure stands.fits.regular inFigure
  have placed := stands.place_eq
  simp only [Level.placeIn, noLink] at placed
  refine ⟨?_, ?_, stands.fits.outer_eq, stands.fits.captioned_eq, ?_,
    stands.fits.regular.caption⟩
  · simp [Walk.linkParent, Level.placeIn, placed, Place.wrap]
  · simp [Walk.linkParent, stands.coherent, placed, Place.wrap, Place.chain]
  · intro link' h
    cases h
    exact ⟨(Surroundings.ofTags_figure inFigure).1, isLink⟩

theorem record (stands : walk.Stands settings level children tail outer) (events : List Event) :
    (walk.record events).Stands settings level children tail outer :=
  ⟨stands.place_eq, stands.coherent, stands.fits⟩

/-- A new figcaption goes to its figure, and the child moves along if that is the open element. -/
theorem addFigcaption {caption : Node} {before todo : List Node} {node : Node}
    (stands : walk.Stands settings level (before ++ node :: todo) tail outer)
    (isCaption : ∃ text, caption = figcaption text)
    (inFigure : level.surroundings.insideFigure = true)
    (first : level.surroundings.figure? = some 1 → level.caption = none) :
    ∃ walk', walk.addFigcaption settings.captionsAbove caption before.length =
        ((captionFront settings (level.own caption) ++ before).length, walk') ∧
      walk'.Stands settings (level.caught caption)
        (captionFront settings (level.own caption) ++ before ++ node ::
          (todo ++ captionBack settings (level.own caption))) tail outer := by
  unfold Walk.addFigcaption
  rw [stands.surroundings_eq]
  match hf : level.surroundings.figure? with
  | none => simp [Surroundings.insideFigure, hf] at inFigure
  | some 0 =>
    have added := fun children => stands.withChildren children
    rw [stands.children_eq]
    cases ha : settings.captionsAbove <;>
      simp only [Level.own, Level.caught, hf, captionFront, captionBack, ha]
    · exact ⟨_, rfl, by simpa using added _⟩
    · exact ⟨_, rfl, by simpa using added _⟩
  | some (n + 1) =>
    have one : level.surroundings.figure? = some 1 := by
      revert hf
      cases level.surroundings <;> simp [Surroundings.figure?]
    have added := stands.addToParent one (first one) isCaption
    refine ⟨{ walk with place := walk.place.addToParent settings.captionsAbove caption }, ?_, ?_⟩
    · simp [Level.own, one, captionFront]
    · simpa [Level.own, Level.caught, one, captionFront, captionBack] using added

/-- The link of a change goes around the figure that is there. -/
theorem linkFigure {change : Change} (stands : walk.Stands settings level children tail outer)
    (inFigure : ∀ link ∈ change.parentLink, level.surroundings = .figure ∧
      ∃ href, link = anchor href) :
    Walk.Stands settings (level.linked change.parentLink) children tail outer
      ((match change.parentLink with
        | some link => walk.linkParent link
        | none => walk).record change.events) := by
  cases h : change.parentLink with
  | none => exact stands.record change.events
  | some link =>
    obtain ⟨figure, isLink⟩ := inFigure link h
    exact (stands.linkParent figure isLink).record change.events

/-- Carrying out a change leads to the level after it, with the child's slot walked. -/
theorem apply {change : Change} {before todo inner : List Node} {head : Head} {nodeTail : String}
    (stands : walk.Stands settings level (before ++ .element head inner nodeTail :: todo) tail
      outer)
    (handled : Change.Handled format settings
      (level.site (before ++ .element head inner nodeTail :: todo)) head inner change) :
    ∃ walk', walk.apply settings.captionsAbove change before.length nodeTail =
        ((captionFront settings (level.own change.figcaption) ++ before).length, walk') ∧
      walk'.Stands settings ((level.caught change.figcaption).linked change.parentLink)
        (captionFront settings (level.own change.figcaption) ++ before ++
          change.slot.withTail nodeTail ::
            (todo ++ captionBack settings (level.own change.figcaption))) tail outer := by
  have placed := stands.withChildren (before ++ change.slot.withTail nodeTail :: todo)
  have setSlot : walk.place.setChild before.length (change.slot.withTail nodeTail) =
      walk.place.withChildren (before ++ change.slot.withTail nodeTail :: todo) := by
    simp [Place.setChild, stands.children_eq]
  have inFigure : ∀ link ∈ change.parentLink,
      (level.caught change.figcaption).surroundings = .figure ∧ ∃ href, link = anchor href := by
    intro link h
    obtain ⟨figure, -, isLink⟩ := handled.parentLink_eq h
    exact ⟨by rw [Level.surroundings_caught]; exact figure, isLink⟩
  unfold Walk.apply
  simp only [setSlot]
  generalize ({ walk with
    place := walk.place.withChildren (before ++ change.slot.withTail nodeTail :: todo) } :
      Walk (List Event)) = moved at placed ⊢
  cases hc : change.figcaption with
  | none =>
    rw [hc] at inFigure
    have captioned : moved.Stands settings (level.caught none)
        (captionFront settings (level.own none) ++ before ++ change.slot.withTail nodeTail ::
          (todo ++ captionBack settings (level.own none))) tail outer := by
      simpa [Level.own, Level.caught, captionFront, captionBack] using placed
    refine ⟨_, Prod.ext ?_ rfl, captioned.linkFigure inFigure⟩
    simp [Level.own, captionFront]
  | some caption =>
    rw [hc] at inFigure
    obtain ⟨figured, free, isCaption⟩ := handled.figcaption_eq hc
    have first : level.surroundings.figure? = some 1 → level.caption = none := by
      intro one
      simp only [Level.site, Level.captioned, one] at free
      simpa using (Bool.or_eq_false_iff.mp free).2
    obtain ⟨walk', added, captioned⟩ := placed.addFigcaption isCaption figured first
    simp only [added]
    exact ⟨_, rfl, captioned.linkFigure inFigure⟩

/-- In plain data, the change of a child is that at the level's site. -/
theorem ofElement_eq {nodeTail : String} {head : Head} {inner : List Node}
    (stands : walk.Stands settings level children tail outer) :
    Change.ofElement .data settings (walk.site nodeTail) head inner =
      Change.ofElement .data settings (level.site children) head inner := by
  rw [Walk.site, stands.surroundings_eq, stands.captioned_eq, stands.linkable_eq,
    Change.ofElement_texts]
  rfl

/-- What becomes of a child at its site in the document becomes of it at the level's. -/
theorem handled {nodeTail : String} {head : Head} {inner : List Node} {change : Change}
    (stands : walk.Stands settings level children tail outer)
    (done : Change.ofElement format settings (walk.site nodeTail) head inner = .ok change) :
    Change.Handled format settings (level.site children) head inner change := by
  have handled := Change.ofElement_handled done
  rw [Walk.site, stands.surroundings_eq, stands.captioned_eq, stands.linkable_eq] at handled
  exact handled.of_texts

section

variable {before todo inner : List Node} {head : Head} {nodeTail : String}

/-- A call of the visitor for an element that can be handled: what it answers, and the level behind
it. -/
theorem visitor_of_ok {change : Change}
    (stands : walk.Stands settings level (before ++ .element head inner nodeTail :: todo) tail
      outer)
    (done : Change.ofElement format settings (walk.site nodeTail) head inner = .ok change) :
    ∃ next, Enrich.visitor format settings walk before.length =
        .ok (some (captionFront settings (level.own change.figcaption) ++ before).length, next) ∧
      next.Stands settings ((level.caught change.figcaption).linked change.parentLink)
        (captionFront settings (level.own change.figcaption) ++ before ++
          change.slot.withTail nodeTail ::
            (todo ++ captionBack settings (level.own change.figcaption))) tail outer := by
  have here : walk.place.children[before.length]? = some (.element head inner nodeTail) := by
    simp [stands.children_eq]
  obtain ⟨next, applied, stands'⟩ := stands.apply (stands.handled done)
  refine ⟨next, ?_, stands'⟩
  simp only [Enrich.visitor, here, done, applied]

/-- A call of the visitor for an element that cannot be handled. -/
theorem visitor_of_error {failure : Failure}
    (stands : walk.Stands settings level (before ++ .element head inner nodeTail :: todo) tail
      outer)
    (done : Change.ofElement format settings (walk.site nodeTail) head inner = .error failure) :
    ∃ left, Enrich.visitor format settings walk before.length = .error (failure.cause, left) := by
  have here : walk.place.children[before.length]? = some (.element head inner nodeTail) := by
    simp [stands.children_eq]
  simp only [Enrich.visitor, here, done]
  exact ⟨_, rfl⟩

/-- A call of the visitor that does not fail. -/
theorem visitor {found : Option Nat} {next : Walk (List Event)}
    (stands : walk.Stands settings level (before ++ .element head inner nodeTail :: todo) tail
      outer)
    (ran : Enrich.visitor format settings walk before.length = .ok (found, next)) :
    ∃ change, Change.Handled format settings
        (level.site (before ++ .element head inner nodeTail :: todo)) head inner change ∧
      found = some (captionFront settings (level.own change.figcaption) ++ before).length ∧
      next.Stands settings ((level.caught change.figcaption).linked change.parentLink)
        (captionFront settings (level.own change.figcaption) ++ before ++
          change.slot.withTail nodeTail ::
            (todo ++ captionBack settings (level.own change.figcaption))) tail outer := by
  cases done : Change.ofElement format settings (walk.site nodeTail) head inner with
  | error failure =>
    obtain ⟨left, called⟩ := stands.visitor_of_error done
    rw [called] at ran
    cases ran
  | ok change =>
    obtain ⟨next', called, stands'⟩ := stands.visitor_of_ok done
    rw [called] at ran
    cases ran
    exact ⟨change, stands.handled done, rfl, stands'⟩

end

end Walk.Stands

/-! ## Entering and leaving a level -/

namespace Walk

variable {σ : Type} {format : Format} {settings : Settings} {level below : Level}
  {before todo inner inner' : List Node} {head : Head} {tail innerTail : String}
  {outer : List Frame} {walk innerWalk : Walk σ}

/-- The frame of the open element around the child that is entered. -/
def frameAt (before todo : List Node) (place : Place) : Frame :=
  ⟨place.head, before, todo, place.tail⟩

theorem Stands.enter
    (stands : walk.Stands settings level (before ++ .element head inner innerTail :: todo) tail
      outer) :
    (walk.enter before.length head inner innerTail).Stands settings
      (level.below head (before ++ todo)) inner innerTail
      (frameAt before todo walk.place :: walk.place.outer) := by
  refine ⟨?_, ?_, ?_, rfl, Level.below_regular head (before ++ todo) level⟩
  · simp [Walk.enter, Place.enter, stands.children_eq, Level.placeIn, Level.below,
      MediaMarkup.addCaption, captionFront, captionBack, frameAt]
  · simp [Walk.enter, Place.enter, Place.chain, stands.coherent]
  · simp [Level.below, frameAt, stands.head_eq]

/-- Back from a child, the walk stands on its level again, with the child closed and the figcaption
that it asked for. -/
theorem Stands.resume
    (stands : walk.Stands settings level (before ++ .element head inner innerTail :: todo) tail
      outer)
    (inside : innerWalk.Stands settings below inner' innerTail
      (frameAt before todo walk.place :: walk.place.outer)) :
    (walk.resume innerWalk).Stands settings level
      (captionFront settings below.caption ++ before ++ below.close inner' innerTail ::
        (todo ++ captionBack settings below.caption)) tail outer := by
  have left : innerWalk.place.leaveTo walk.place.depth =
      walk.place.withChildren (captionFront settings below.caption ++ before ++
        below.close inner' innerTail :: (todo ++ captionBack settings below.caption)) := by
    rw [inside.place_eq]
    unfold Level.placeIn Level.close Place.leaveTo
    cases below.link with
    | none =>
      have once : walk.place.outer.length + 1 - walk.place.outer.length = 1 := by omega
      simp only [Place.depth, MediaMarkup.addCaption, List.length_cons, once]
      simp [Place.leaveTimes, Place.leave, Place.node, Place.withChildren, frameAt]
    | some link =>
      have twice : walk.place.outer.length + 1 + 1 - walk.place.outer.length = 2 := by omega
      simp only [Place.depth, MediaMarkup.addCaption, List.length_cons, twice]
      simp [Place.leaveTimes, Place.leave, Place.node, Place.withChildren, frameAt]
  have back := stands.withChildren (captionFront settings below.caption ++ before ++
    below.close inner' innerTail :: (todo ++ captionBack settings below.caption))
  refine ⟨?_, ?_, stands.fits⟩
  · simp only [Walk.resume, left]
    exact back.place_eq
  · simp only [Walk.resume, left]
    exact back.coherent

/-! ## Runs -/

/-- The level that a walk stands on does not depend on what the walk remembers. -/
theorem Stands.of_place {τ : Type} {children : List Node} {walk' : Walk τ}
    (stands : walk.Stands settings level children tail outer)
    (place_eq : walk'.place = walk.place) (ancestors_eq : walk'.ancestors = walk.ancestors) :
    walk'.Stands settings level children tail outer :=
  ⟨place_eq ▸ stands.place_eq, by rw [ancestors_eq, place_eq, stands.coherent], stands.fits⟩

/-- A call of the visitor that also notes the head that it is called for. -/
theorem Stands.visitor_traced {found : Option Nat} {walk next : Walk (List Event × List Head)}
    (stands : walk.Stands settings level (before ++ .element head inner innerTail :: todo) tail
      outer)
    (called : (Enrich.visitor format settings).traced walk before.length = .ok (found, next)) :
    ∃ change, Change.Handled format settings
        (level.site (before ++ .element head inner innerTail :: todo)) head inner change ∧
      found = some (captionFront settings (level.own change.figcaption) ++ before).length ∧
      next.Stands settings ((level.caught change.figcaption).linked change.parentLink)
        (captionFront settings (level.own change.figcaption) ++ before ++
          change.slot.withTail innerTail ::
            (todo ++ captionBack settings (level.own change.figcaption))) tail outer ∧
      next.memory.2 = walk.memory.2 ++ [head] := by
  obtain ⟨visited, noted⟩ := traced_ok called
  have untraced : walk.untraced.Stands settings level
      (before ++ .element head inner innerTail :: todo) tail outer := stands.of_place rfl rfl
  obtain ⟨change, handled, found_eq, stands'⟩ := untraced.visitor visited
  refine ⟨change, handled, found_eq, stands'.of_place rfl rfl, ?_⟩
  rw [noted, stands.children_eq]
  simp [Node.head?]

theorem captionFront_cases (settings : Settings) (caption : Option Node) :
    captionFront settings caption = [] ∨
      ∃ node, captionFront settings caption = [node] ∧ captionBack settings caption = [] := by
  unfold captionFront captionBack
  cases settings.captionsAbove with
  | false => exact .inl rfl
  | true =>
    cases caption with
    | none => exact .inl rfl
    | some node => exact .inr ⟨node, rfl, rfl⟩

/-- A run that ends is a pass over the level that it stands on, and notes the heads of that pass. -/
theorem run_pass (level : Level) (before todo : List Node) (tail : String) (outer : List Frame)
    (budget index : Nat) (walk last : Walk (List Event × List Head))
    (ran : run (Enrich.visitor format settings).traced Media.tags budget index walk = .ok last)
    (here : index = before.length)
    (stands : walk.Stands settings level (before ++ todo) tail outer) :
    ∃ log level' children, Pass format settings level before todo log level' children ∧
      last.Stands settings level' children tail outer ∧
      last.memory.2 = walk.memory.2 ++ log := by
  induction budget generalizing level before todo tail outer index walk last with
  | zero => simp [run] at ran
  | succ budget ih =>
    subst here
    unfold run at ran
    rw [stands.children_eq] at ran
    cases todo with
    | nil =>
      simp only [List.append_nil, getElem?_neg, Nat.lt_irrefl, not_false_eq_true,
        Except.ok.injEq] at ran
      subst ran
      exact ⟨[], level, before, .done level before, by simpa using stands, by simp⟩
    | cons node todo =>
      have at_ : (before ++ node :: todo)[before.length]? = some node := by simp
      have skipped (noElement : node.isElement = false)
          (ran : run (Enrich.visitor format settings).traced Media.tags budget (before.length + 1)
            walk = .ok last) :
          ∃ log level' children,
            Pass format settings level before (node :: todo) log level' children ∧
            last.Stands settings level' children tail outer ∧
            last.memory.2 = walk.memory.2 ++ log := by
        obtain ⟨log, level', children, pass, stands', notes⟩ :=
          ih level (before ++ [node]) todo tail outer _ walk last ran (by simp)
            (by simpa using stands)
        exact ⟨log, level', children, .skip noElement pass, stands', notes⟩
      simp only [at_] at ran
      cases node with
      | comment text nodeTail => exact skipped rfl ran
      | instruction text nodeTail => exact skipped rfl ran
      | element head inner nodeTail =>
        by_cases media : head.tag ∈ Media.tags
        · simp only [media, ↓reduceIte] at ran
          rcases called : (Enrich.visitor format settings).traced walk before.length with
            ⟨cause, left⟩ | ⟨found, next⟩
          · simp [called] at ran
          simp only [called] at ran
          obtain ⟨change, handled, rfl, next', noted⟩ := stands.visitor_traced called
          obtain ⟨log, level', children, pass, last', notes⟩ :=
            ih _ (captionFront settings (level.own change.figcaption) ++ before ++
              [change.slot.withTail nodeTail]) _ tail outer _ next last ran
              (by simp [Nat.add_assoc]) (by simpa using next')
          refine ⟨head :: log, level', children, .visit media handled pass, last', ?_⟩
          rw [notes, noted, List.append_assoc, List.singleton_append]
        · simp only [media, ↓reduceIte] at ran
          rcases entered : run (Enrich.visitor format settings).traced Media.tags budget 0
              (walk.enter before.length head inner nodeTail) with stop | innerWalk
          · simp [entered] at ran
          simp only [entered] at ran
          obtain ⟨log, below, inner', inside, innerStands, innerNotes⟩ :=
            ih _ [] inner nodeTail _ 0 _ innerWalk entered rfl stands.enter
          have resumed := stands.resume innerStands
          have innerMemory : (walk.resume innerWalk).memory.2 = walk.memory.2 ++ log := innerNotes
          -- only a figcaption in front of the walked children brings the child back
          rcases captionFront_cases settings below.caption with kept | ⟨caption, moved, unmoved⟩
          · obtain ⟨log', level', children, pass, last', notes⟩ :=
              ih level (before ++ [below.close inner' nodeTail]) _ tail outer _ _ last ran
                (by simp) (by simpa [kept] using resumed)
            refine ⟨log ++ log', level', children, .enter media inside kept pass, last', ?_⟩
            rw [notes, innerMemory, List.append_assoc]
          · obtain ⟨log', level', children, pass, last', notes⟩ :=
              ih level (caption :: before) (below.close inner' nodeTail :: todo) tail outer _ _
                last ran (by simp) (by simpa [moved, unmoved] using resumed)
            refine ⟨log ++ log', level', children, .again media inside moved pass, last', ?_⟩
            rw [notes, innerMemory, List.append_assoc]

/-- A run that ends is a pass, also where nothing is noted. -/
theorem run_pass_untraced {level : Level} {children : List Node} {tail : String}
    {outer : List Frame} {budget : Nat} {walk last : Enriching}
    (ran : run (Enrich.visitor format settings) Media.tags budget 0 walk = .ok last)
    (stands : walk.Stands settings level children tail outer) :
    ∃ log level' children', Pass format settings level [] children log level' children' ∧
      last.Stands settings level' children' tail outer := by
  have noted := run_traced (Enrich.visitor format settings) Media.tags budget 0
    ⟨walk.place, walk.ancestors, (walk.memory, [])⟩
  rcases traced : run (Enrich.visitor format settings).traced Media.tags budget 0
      ⟨walk.place, walk.ancestors, (walk.memory, [])⟩ with stop | last'
  · rw [traced, untraced, ran] at noted
    cases noted
  · rw [traced, untraced, ran] at noted
    obtain ⟨log, level', children', pass, stands', -⟩ :=
      run_pass level [] children tail outer budget 0 _ last' traced rfl (stands.of_place rfl rfl)
    refine ⟨log, level', children', pass, ?_⟩
    cases noted
    exact stands'.of_place rfl rfl

end Walk

/-! ## Whole documents -/

namespace Node

/-- The heads of the elements that a pass over a document hands to its visitor, in the order of the
calls. -/
def calls (settings : Settings) (tree : Node) : List Head :=
  if settings.enable then
    (tree.walk (Enrich.visitor .data settings).traced Media.tags (Enrich.budget tree)
      ([], [])).memory.2
  else []

/-- What happens to a document after the walk over its media elements. -/
def unravelIf (settings : Settings) (tree : Node) : Node :=
  if settings.unravelParagraphs then tree.unravel else tree

theorem enrich_of_disabled {settings : Settings} {tree : Node} (h : settings.enable = false) :
    tree.enrich settings = ⟨tree, [.disabled], none⟩ := by
  simp [enrich, enrichAs, h]

/-- Without an element there is nothing to enrich. -/
theorem enrich_of_noElement {settings : Settings} {tree : Node} (h : tree.isElement = false) :
    (tree.enrich settings).tree = tree := by
  cases tree with
  | element head children tail => simp [isElement, head?] at h
  | comment text tail =>
    simp only [enrich, enrichAs, Enrich.walk, walk, Place.ofNode?, unravelAs_data, unravel]
    cases settings.enable <;> cases settings.unravelParagraphs <;> rfl
  | instruction text tail =>
    simp only [enrich, enrichAs, Enrich.walk, walk, Place.ofNode?, unravelAs_data, unravel]
    cases settings.enable <;> cases settings.unravelParagraphs <;> rfl

theorem failure_of_noElement {settings : Settings} {tree : Node} (h : tree.isElement = false) :
    (tree.enrich settings).failure = none := by
  cases tree with
  | element head children tail => simp [isElement, head?] at h
  | comment text tail =>
    simp only [enrich, enrichAs, Enrich.walk, walk, Place.ofNode?, unravelAs_data]
    cases settings.enable <;> cases settings.unravelParagraphs <;> rfl
  | instruction text tail =>
    simp only [enrich, enrichAs, Enrich.walk, walk, Place.ofNode?, unravelAs_data]
    cases settings.enable <;> cases settings.unravelParagraphs <;> rfl

theorem calls_of_noElement {settings : Settings} {tree : Node} (h : tree.isElement = false) :
    tree.calls settings = [] := by
  unfold calls
  cases tree with
  | element head children tail => simp [isElement, head?] at h
  | comment text tail => split <;> rfl
  | instruction text tail => split <;> rfl

section

variable {settings : Settings} {head : Head} {children : List Node} {tail : String}

/-- The walk over a document, before its first step. -/
def startAt {σ : Type} (head : Head) (children : List Node) (tail : String) (memory : σ) : Walk σ :=
  .start ⟨head, children, tail, []⟩ memory

theorem enrich_of_run {walk : Walk (List Event)} (enabled : settings.enable = true)
    (ran : Walk.run (Enrich.visitor .data settings) Media.tags
      (Enrich.budget (.element head children tail)) 0 (startAt head children tail []) = .ok walk) :
    (Node.element head children tail).enrich settings =
      ⟨walk.place.root.unravelIf settings, walk.memory, none⟩ := by
  unfold startAt at ran
  simp only [enrich, enrichAs, enabled, ↓reduceIte, Enrich.walk, Node.walk, Place.ofNode?, ran,
    unravelIf]
  split <;> rfl

theorem enrich_of_stop {stop : Stop EnrichError} {walk : Walk (List Event)}
    (enabled : settings.enable = true)
    (ran : Walk.run (Enrich.visitor .data settings) Media.tags
      (Enrich.budget (.element head children tail)) 0 (startAt head children tail []) =
        .error (stop, walk)) :
    (Node.element head children tail).enrich settings =
      ⟨walk.place.root, walk.memory, some stop⟩ := by
  unfold startAt at ran
  simp only [enrich, enrichAs, enabled, ↓reduceIte, Enrich.walk, Node.walk, Place.ofNode?, ran]

theorem startAt_stands {σ : Type} (memory : σ) :
    (startAt head children tail memory).Stands settings (.root head) children tail [] where
  place_eq := rfl
  coherent := rfl
  fits := ⟨rfl, rfl, Level.root_regular head⟩

/-- An enriching pass that ends is a pass over the levels of its document, and then unravels the
paragraphs. -/
theorem enrich_pass (enabled : settings.enable = true)
    (finished : ((Node.element head children tail).enrich settings).failure = none) :
    ∃ last children', Pass .data settings (.root head) [] children
        ((Node.element head children tail).calls settings) last children' ∧
      ((Node.element head children tail).enrich settings).tree =
        (Node.element head children' tail).unravelIf settings := by
  have noted := Walk.run_traced (Enrich.visitor .data settings) Media.tags
    (Enrich.budget (.element head children tail)) 0 (startAt head children tail ([], []))
  have untraced : (startAt head children tail (([] : List Event), ([] : List Head))).untraced =
      startAt head children tail [] := rfl
  rw [untraced] at noted
  rcases ran : Walk.run (Enrich.visitor .data settings).traced Media.tags
      (Enrich.budget (.element head children tail)) 0 (startAt head children tail ([], [])) with
    ⟨stop, left⟩ | last
  · rw [ran] at noted
    rw [enrich_of_stop enabled noted.symm] at finished
    simp at finished
  · rw [ran] at noted
    obtain ⟨log, level, children', pass, stands, notes⟩ :=
      Walk.run_pass _ [] _ _ _ _ _ _ _ ran rfl (startAt_stands _)
    have calls_eq : (Node.element head children tail).calls settings = log := by
      unfold startAt at ran
      simp only [calls, enabled, ↓reduceIte, Node.walk, Place.ofNode?, ran]
      exact notes
    have place := stands.place_eq
    have unlinked : level.link = none := pass.link_of_root rfl rfl
    simp only [Level.placeIn, unlinked, addCaption, pass.level_eq.1] at place
    refine ⟨level, children', calls_eq ▸ pass, ?_⟩
    rw [enrich_of_run enabled noted.symm]
    simp [Walk.untraced, place, Level.root, Place.root, Place.node, Node.within]

end

end Node

end MediaMarkup
