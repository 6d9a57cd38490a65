import MediaMarkup.Proofs.Sweep
import MediaMarkup.Proofs.Twins

/-!
What the position of captions is good for: it moves figcaptions and does nothing else. A sweep does
not look at it, so two sweeps that differ in it only go side by side (`Node.sweepAll_agree`) and
leave twins. Main statement: two passes with different positions fail both, or leave the same
document but for its figcaptions, with the same captions in every figure (`captionPosition_moves`).
-/

namespace MediaMarkup

/-! ## Without figcaptions -/

/-- Deletes the figcaptions of a document; the text behind them stays. -/
def withoutFigcaptions : Reduction where
  text := id
  element head content := if head.tag = "figcaption" then .empty else content.asElement head
  text_empty := rfl

/-- The texts of the figcaptions among some nodes. -/
def captionTexts (nodes : List Node) : List String :=
  (Node.figcaptions nodes).filterMap fun node => node.head?.map Head.text

/-- A figure, given by its head, with the texts of its figcaptions. -/
def captionsOf (figure : Head × List Node) : Head × List String :=
  (figure.1, captionTexts figure.2)

/-- The figures of a document in document order, with the texts of their figcaptions. -/
def Node.figureCaptions (tree : Node) : List (Head × List String) :=
  (tree.figures true).map captionsOf

theorem Node.figures_element (head : Head) (children : List Node) (tail : String) :
    (Node.element head children tail).figures true =
      ownFigure head children ++ figuresAll true children := by
  rw [figures, if_neg (by simp)]

theorem captionTexts_append (xs ys : List Node) :
    captionTexts (xs ++ ys) = captionTexts xs ++ captionTexts ys := by
  rw [captionTexts, Node.figcaptions_append, List.filterMap_append]
  rfl

theorem captionTexts_of_uncaptioned {nodes : List Node} (none : hasFigcaption nodes = false) :
    captionTexts nodes = [] := by
  rw [captionTexts, Node.hasFigcaption_eq_false.mp none]
  rfl

theorem captionTexts_congr {x y : Node} (same : x.head? = y.head?) :
    captionTexts [x] = captionTexts [y] := by
  have tagged : x.hasTag "figcaption" = y.hasTag "figcaption" := by
    rw [Node.hasTag, Node.tag?, same, Node.hasTag, Node.tag?]
  cases isCaption : y.hasTag "figcaption" with
  | false =>
    rw [captionTexts, captionTexts, Node.figcaptions_of_ne (tagged.trans isCaption),
      Node.figcaptions_of_ne isCaption]
  | true =>
    rw [captionTexts, captionTexts, Node.figcaptions_of_tag (tagged.trans isCaption),
      Node.figcaptions_of_tag isCaption, List.filterMap_cons, List.filterMap_cons, same]

namespace Twins

variable {x y : Node} {xs ys : List Node}

theorem reduce_figcaption (text : String) :
    Node.reduce withoutFigcaptions (figcaption text) = .empty := by
  rw [figcaption, Node.reduce_element, withoutFigcaptions]
  rfl

/-- Without figcaptions twins are the same. -/
theorem reduceAll_eq (twins : Twins xs ys) :
    Node.reduceAll withoutFigcaptions xs = Node.reduceAll withoutFigcaptions ys := by
  induction twins with
  | nil => rfl
  | other _ _ ih => rw [Node.reduceAll_cons, Node.reduceAll_cons, ih]
  | element tail _ _ inner ih =>
    rw [Node.reduceAll_cons, Node.reduceAll_cons, ih, Node.reduce_element, Node.reduce_element,
      inner]
  | captioned text tail _ _ _ _ inner ih =>
    rw [Node.reduceAll_cons, Node.reduceAll_cons, ih, Node.reduce_element, Node.reduce_element,
      Node.reduceAll_cons, Node.reduceAll_append, Node.reduceAll_singleton, reduce_figcaption,
      Content.empty_append, Content.append_empty, inner]

theorem reduced_eq (twins : Twins [x] [y]) :
    x.reduced withoutFigcaptions = y.reduced withoutFigcaptions := by
  cases twins with
  | other => rfl
  | element tail inner => exact Node.reduced_congr _ tail inner.reduceAll_eq
  | captioned text tail isFigure alone inner =>
    refine Node.reduced_congr _ tail ?_
    rw [Node.reduceAll_cons, Node.reduceAll_append, Node.reduceAll_singleton, reduce_figcaption,
      Content.empty_append, Content.append_empty, inner.reduceAll_eq]

theorem captionTexts_eq (twins : Twins xs ys) : captionTexts xs = captionTexts ys := by
  have related := twins.forall₂
  clear twins
  induction related with
  | nil => rfl
  | @cons x y xs ys first _ ih =>
    have same : x.head? = y.head? := by cases first <;> rfl
    rw [← List.singleton_append, captionTexts_append, ih, captionTexts_congr same,
      ← captionTexts_append, List.singleton_append]

theorem ownFigure_eq {head : Head} {children children' : List Node}
    (same : captionTexts children = captionTexts children') :
    (Node.ownFigure head children).map captionsOf =
      (Node.ownFigure head children').map captionsOf := by
  unfold Node.ownFigure
  split
  · simp only [List.map_singleton, captionsOf, same]
  · rfl

/-- The figures of twins have the same captions. -/
theorem figuresAll_eq (twins : Twins xs ys) :
    (Node.figuresAll true xs).map captionsOf = (Node.figuresAll true ys).map captionsOf := by
  induction twins with
  | nil => rfl
  | other noElement _ ih =>
    rw [Node.figuresAll_cons, Node.figuresAll_cons, Node.figures_of_noElement noElement,
      List.nil_append, List.nil_append, ih]
  | element tail inner _ innerIh ih =>
    simp only [Node.figuresAll_cons, Node.figures_element, List.map_append, innerIh, ih,
      ownFigure_eq inner.captionTexts_eq]
  | @captioned head children children' xs ys text tail isFigure alone inner _ innerIh ih =>
    have alone' : hasFigcaption children' = false := inner.hasFigcaption_eq ▸ alone
    have same : captionTexts (figcaption text :: children) =
        captionTexts (children' ++ [figcaption text]) := by
      rw [← List.singleton_append, captionTexts_append, captionTexts_append,
        captionTexts_of_uncaptioned alone, captionTexts_of_uncaptioned alone', List.append_nil]
      rfl
    simp only [Node.figuresAll_cons, Node.figures_element, List.map_append, ih, ownFigure_eq same,
      Node.figuresAll_append, Node.figures_figcaption, Node.figuresAll_nil, List.append_nil,
      List.nil_append, innerIh]

theorem figureCaptions_eq (twins : Twins [x] [y]) : x.figureCaptions = y.figureCaptions := by
  have same := twins.figuresAll_eq
  simp only [Node.figuresAll_cons, Node.figuresAll_nil, List.append_nil] at same
  exact same

end Twins

/-! ## Side by side -/

/-- The settings with captions in front of what they are about. -/
def Settings.above (settings : Settings) : Settings :=
  { settings with captionPosition := .above }

def Settings.below (settings : Settings) : Settings :=
  { settings with captionPosition := .below }

/-- Two results that agree: errors as `E` says, or values as `R` says. -/
inductive Agree {ε α : Type} (E : ε → ε → Prop) (R : α → α → Prop) :
    Except ε α → Except ε α → Prop
  | error {cause cause' : ε} (same : E cause cause') : Agree E R (.error cause) (.error cause')
  | ok {value value' : α} (related : R value value') : Agree E R (.ok value) (.ok value')

namespace Agree

variable {ε α : Type} {E : ε → ε → Prop} {R : α → α → Prop} {result : Except ε α}

theorem of_error {cause : ε} (agree : Agree E R (.error cause) result) :
    ∃ cause', result = .error cause' ∧ E cause cause' := by
  cases agree with
  | error same => exact ⟨_, rfl, same⟩

theorem of_ok {value : α} (agree : Agree E R (.ok value) result) :
    ∃ value', result = .ok value' ∧ R value value' := by
  cases agree with
  | ok related => exact ⟨_, rfl, related⟩

end Agree

/-- Frames that are the same but for the side of a new figcaption. -/
inductive FrameTwins (settings : Settings) : Frame → Frame → Prop
  | link (href : String) : FrameTwins settings (shell (anchor href)) (shell (anchor href))
  | figure (caption : Option String) :
    FrameTwins settings (figureShell settings.above caption) (figureShell settings.below caption)

namespace Twins

variable {settings : Settings} {x y : Node}

/-- What twins are put into makes them twins again. -/
theorem attach {frame frame' : Frame} (twins : Twins [x] [y])
    (noCaption : x.hasTag "figcaption" = false) (frames : FrameTwins settings frame frame') :
    Twins [frame.attach x] [frame'.attach y] := by
  cases frames with
  | link href => exact .element "" twins .nil
  | figure caption =>
    cases caption with
    | none => exact .element "" twins .nil
    | some text =>
      have alone : hasFigcaption [x] = false := by simp [hasFigcaption, noCaption]
      exact .captioned text "" rfl alone twins .nil

theorem within {shells shells' : List Frame} (twins : Twins [x] [y])
    (frames : List.Forall₂ (FrameTwins settings) shells shells')
    (noCaption : x.hasTag "figcaption" = false) :
    Twins [x.within shells] [y.within shells'] := by
  induction frames generalizing x y with
  | nil => exact twins
  | @cons frame frame' shells shells' first _ ih =>
    have isShell : frame.IsShell := by
      cases first with
      | link href => exact shell_anchor_isShell href
      | figure caption => exact figureShell_isShell _ caption
    exact ih (twins.attach noCaption first) (isShell.isFigcaption_attach x)

end Twins

theorem Plan.shells_twins (settings : Settings) (plan : Plan) (surroundings : Surroundings)
    (linkable : Bool) : List.Forall₂ (FrameTwins settings)
      (plan.shells settings.above surroundings linkable)
      (plan.shells settings.below surroundings linkable) := by
  have links {link : Option Head} (h : link = none ∨ link = plan.href.map anchor) :
      List.Forall₂ (FrameTwins settings) (link.toList.map shell) (link.toList.map shell) := by
    rcases h with rfl | rfl
    · exact .nil
    · cases plan.href with
      | none => exact .nil
      | some href => exact .cons (.link href) .nil
  have media : plan.mediaLink surroundings linkable = none ∨
      plan.mediaLink surroundings linkable = plan.href.map anchor := by
    unfold mediaLink
    split
    · exact .inl rfl
    · exact .inr rfl
  have figure : plan.figureLink = none ∨ plan.figureLink = plan.href.map anchor := by
    unfold figureLink
    split
    · exact .inr rfl
    · exact .inl rfl
  unfold shells
  refine List.rel_append (links media) ?_
  split
  · exact .cons (.figure plan.figcaption) (links figure)
  · exact .nil

/-- Changes of one element under both positions: they do the same but for the side of a caption. -/
structure Change.Agrees (change change' : Change) : Prop where
  figcaption : change'.figcaption = change.figcaption
  parentLink : change'.parentLink = change.parentLink
  slot : Twins [change.slot] [change'.slot]

/-- The position of captions has no part in whether an element can be handled. -/
theorem Change.ofElement_agree (settings : Settings) (site : Site) {head : Head}
    (media : head.tag ∈ Media.tags) (children : List Node) :
    Agree (fun failure failure' => failure'.cause = failure.cause) Change.Agrees
      (ofElement .data settings.above site head children)
      (ofElement .data settings.below site head children) := by
  cases asked : Request.ofHead? head site.surroundings.insideLink with
  | none =>
    simp only [ofElement, asked]
    exact .ok ⟨rfl, rfl, .refl _⟩
  | some request =>
    cases derives : request.derive with
    | error cause =>
      simp only [ofElement, asked, derives]
      exact .error rfl
    | ok derived =>
      cases merges : (request.merge .data derived head).failure with
      | some cause =>
        simp only [Request.merge] at merges
        simp only [ofElement, asked, derives, carryOut, Format.checkTexts_data, merges]
        exact .error rfl
      | none =>
        obtain ⟨events, above⟩ : ∃ events, ofElement .data settings.above site head children = _ :=
          ofElement_of_asked asked derives merges
        obtain ⟨events', below⟩ : ∃ events, ofElement .data settings.below site head children = _ :=
          ofElement_of_asked asked derives merges
        obtain ⟨finished, inner, finish_eq, isMedia⟩ := (ofElement_handled above).media_eq media
        have noCaption := Node.isFigcaption_media isMedia inner ""
        rw [← finish_eq] at noCaption
        rw [above, below]
        exact .ok ⟨rfl, rfl, (Twins.refl _).within (Plan.shells_twins ..) noCaption⟩

/-- Sweeps side by side: they know the same, and the children behind them are twins. -/
structure Sweep.Beside (state state' : Sweep) : Prop where
  level : state'.level = state.level
  own : state'.own = state.own
  nodes : Twins state.nodes state'.nodes

namespace Sweep.Beside

variable {settings : Settings} {state state' below below' : Sweep} {todo : List Node}

theorem hasFigcaption_siblings (beside : state.Beside state') (todo : List Node) :
    hasFigcaption (state'.siblings todo) = hasFigcaption (state.siblings todo) := by
  rw [siblings, siblings, beside.own]
  simp only [hasFigcaption_append, beside.nodes.hasFigcaption_eq]

theorem site_eq (beside : state.Beside state') (todo : List Node) :
    state'.level.site (state'.siblings todo) = state.level.site (state.siblings todo) := by
  rw [beside.level, Level.site_congr (beside.hasFigcaption_siblings todo)]

theorem skip (beside : state.Beside state') (node : Node) :
    (state.skip node).Beside (state'.skip node) :=
  ⟨beside.level, beside.own, beside.nodes.append (.refl [node])⟩

theorem enter (beside : state.Beside state') (head : Head) (todo : List Node) :
    (state.enter head todo).Beside (state'.enter head todo) := by
  refine ⟨?_, rfl, .nil⟩
  rw [Sweep.enter, Sweep.enter, beside.level,
    Level.below_congr (beside.hasFigcaption_siblings todo)]

theorem visit {change change' : Change} (beside : state.Beside state')
    (agrees : change.Agrees change') (tail : String) :
    (state.visit change tail).Beside (state'.visit change' tail) := by
  refine ⟨?_, ?_, beside.nodes.append (agrees.slot.withTail tail)⟩
  · simp only [Sweep.visit, beside.level, agrees.figcaption, agrees.parentLink]
  · simp only [Sweep.visit, beside.level, beside.own, agrees.figcaption]

/-- An open element gets its figcaption in front of its children or behind them. -/
theorem element (settings : Settings) (beside : state.Beside state') (sound : state.Sound [])
    (tail : String) : Twins [.element state.level.head (state.children settings.above []) tail]
      [.element state'.level.head (state'.children settings.below []) tail] := by
  have front (caption : Option Node) : captionFront settings.above caption = caption.toList ∧
    captionBack settings.above caption = [] := ⟨rfl, rfl⟩
  have back (caption : Option Node) : captionFront settings.below caption = [] ∧
    captionBack settings.below caption = caption.toList := ⟨rfl, rfl⟩
  rw [Sweep.children, Sweep.children, (front _).1, (front _).2, (back _).1, (back _).2,
    beside.level, beside.own, List.append_nil, List.append_nil, List.nil_append, List.nil_append]
  cases gained : state.own with
  | none =>
    rw [Option.toList_none, List.nil_append, List.append_nil]
    exact .element tail beside.nodes .nil
  | some caption =>
    obtain ⟨text, rfl⟩ := sound.own caption gained
    obtain ⟨isFigure, alone⟩ := sound.alone (by rw [gained]; rfl)
    rw [List.append_nil] at alone
    exact .captioned text tail isFigure alone beside.nodes .nil

theorem leave (beside : state.Beside state') (inside : below.Beside below')
    (sound : below.Sound []) (tail : String) :
    (below.leave settings.above tail state).Beside (below'.leave settings.below tail state') := by
  refine ⟨beside.level, ?_, beside.nodes.append ?_⟩
  · simp only [Sweep.leave, inside.level, beside.own]
  · unfold Level.close
    rw [inside.level]
    cases below.level.link with
    | none => exact inside.level ▸ inside.element settings sound tail
    | some link => exact .element tail (inside.level ▸ inside.element settings sound "") .nil

end Sweep.Beside

/-- **The position of captions has no part in a sweep.** -/
theorem Node.sweepAll_agree (settings : Settings) {todo : List Node} {state state' : Sweep}
    (beside : state.Beside state') (sound : state.Sound todo) :
    Agree Eq Sweep.Beside (sweepAll settings.above state todo)
      (sweepAll settings.below state' todo) := by
  induction todo using Node.inductionOnAll generalizing state state' with
  | nil =>
    rw [sweepAll_nil, sweepAll_nil]
    exact .ok beside
  | comment text tail rest ih =>
    rw [sweepAll_of_noElement rfl, sweepAll_of_noElement rfl]
    exact ih (beside.skip _) sound.skip
  | instruction text tail rest ih =>
    rw [sweepAll_of_noElement rfl, sweepAll_of_noElement rfl]
    exact ih (beside.skip _) sound.skip
  | element head inner tail rest innerIh ih =>
    by_cases media : head.tag ∈ Media.tags
    · rw [sweepAll_of_media media, sweepAll_of_media media, beside.site_eq]
      have agree := Change.ofElement_agree settings
        (state.level.site (state.siblings (.element head inner tail :: rest))) media inner
      cases done : Change.ofElement .data settings.above
          (state.level.site (state.siblings (.element head inner tail :: rest))) head inner with
      | error failure =>
        obtain ⟨failure', done', same⟩ := (done ▸ agree).of_error
        rw [done']
        exact .error same.symm
      | ok change =>
        obtain ⟨change', done', agrees⟩ := (done ▸ agree).of_ok
        rw [done']
        exact ih (beside.visit agrees tail) (sound.visit media (Change.ofElement_handled done))
    · rw [sweepAll_of_other media, sweepAll_of_other media]
      have agree := innerIh (beside.enter head rest) (Sweep.Sound.enter state head rest inner)
      cases entered : sweepAll settings.above (state.enter head rest) inner with
      | error cause =>
        obtain ⟨cause', entered', same⟩ := (entered ▸ agree).of_error
        rw [entered']
        exact .error same
      | ok below =>
        have swept := swept_of_sweepAll entered
        obtain ⟨below', entered', inside⟩ := (entered ▸ agree).of_ok
        rw [entered']
        exact ih (beside.leave inside (swept.sound (.enter ..)) tail) (swept.sound_leave sound)

/-! ## Whole documents -/

/-- What two passes leave if they do the same but for the places of figcaptions: both fail, with one
error, or their documents are the same without figcaptions, and so are the captions of the figures.
-/
inductive Enriched.Alike (first second : Enriched) : Prop
  | failed (cause : EnrichError) (failure : first.failure = some (.failed cause))
    (failure' : second.failure = some (.failed cause)) : Alike first second
  | done (failure : first.failure = none) (failure' : second.failure = none)
    (document : first.tree.reduced withoutFigcaptions = second.tree.reduced withoutFigcaptions)
    (captions : first.tree.figureCaptions = second.tree.figureCaptions) : Alike first second

namespace Enriched.Alike

variable {first second third : Enriched}

theorem symm (alike : first.Alike second) : second.Alike first := by
  cases alike with
  | failed cause failure failure' => exact .failed cause failure' failure
  | done failure failure' document captions =>
    exact .done failure' failure document.symm captions.symm

/-- A pass that is like another one is like itself. -/
theorem left (alike : first.Alike second) : first.Alike first := by
  cases alike with
  | failed cause failure => exact .failed cause failure failure
  | done failure => exact .done failure failure rfl rfl

theorem right (alike : first.Alike second) : second.Alike second :=
  alike.symm.left

end Enriched.Alike

theorem Node.enrich_alike (settings : Settings) (tree : Node)
    (tame : ∀ media ∈ mediaAll tree.children, ∀ source, media.1.source? = some source →
      media.1.Tame source) : (tree.enrich settings.above).Alike (tree.enrich settings.below) := by
  cases enabled : settings.enable with
  | false =>
    have above : settings.above.enable = false := enabled
    have below : settings.below.enable = false := enabled
    rw [enrich_of_disabled above, enrich_of_disabled below]
    exact .done rfl rfl rfl rfl
  | true =>
    cases tree with
    | comment text tail =>
      exact .done (failure_of_noElement rfl) (failure_of_noElement rfl)
        (by rw [enrich_of_noElement rfl, enrich_of_noElement rfl])
        (by rw [enrich_of_noElement rfl, enrich_of_noElement rfl])
    | instruction text tail =>
      exact .done (failure_of_noElement rfl) (failure_of_noElement rfl)
        (by rw [enrich_of_noElement rfl, enrich_of_noElement rfl])
        (by rw [enrich_of_noElement rfl, enrich_of_noElement rfl])
    | element head children tail =>
      have above := @enrich_sweep settings.above head children tail enabled tame
      have below := @enrich_sweep settings.below head children tail enabled tame
      have sound := Sweep.start_sound head children
      have agree := sweepAll_agree settings ⟨rfl, rfl, .nil⟩ sound
      cases ran : sweepAll settings.above (.start head) children with
      | error cause =>
        obtain ⟨cause', ran', rfl⟩ := (ran ▸ agree).of_error
        rw [ran] at above
        rw [ran'] at below
        exact .failed cause above below
      | ok last =>
        have swept := swept_of_sweepAll ran
        obtain ⟨last', ran', beside⟩ := (ran ▸ agree).of_ok
        rw [ran] at above
        rw [ran'] at below
        have head_eq : last.level.head = head := swept.level_eq.1
        have head_eq' : last'.level.head = head := beside.level ▸ head_eq
        have twins := (beside.element settings (swept.sound sound) tail).unravelIf settings
        rw [head_eq, head_eq'] at twins
        exact .done above.1 below.1 (by rw [above.2, below.2]; exact twins.reduced_eq)
          (by rw [above.2, below.2]; exact twins.figureCaptions_eq)

/-- **The position of captions only moves them.** If no source has a second wrapper and no title a
directive about the source, the alt text or the title itself, then passes whose settings differ in
the position of captions fail both, or leave the same document but for figcaptions, with the same
captions in every figure. -/
theorem captionPosition_moves (settings : Settings) (position : CaptionPosition) (tree : Node)
    (tame : ∀ media ∈ Node.mediaAll tree.children, ∀ source, media.1.source? = some source →
      media.1.Tame source) :
    (tree.enrich settings).Alike (tree.enrich { settings with captionPosition := position }) := by
  have alike := tree.enrich_alike settings tame
  obtain ⟨enable, position', videoControls, audioControls, unravelParagraphs⟩ := settings
  cases position' with
  | above =>
    cases position with
    | above => exact alike.left
    | below => exact alike
  | below =>
    cases position with
    | above => exact alike.symm
    | below => exact alike.right

/-- With captions above them, the walk comes back to a link that its own caption moved. -/
theorem captionPosition_moves_linkedPicture :
    (linkedPicture "[x.png]").rewalks captionsAbove = true ∧
      ((linkedPicture "[x.png]").enrich .default).failure = none ∧
      ((linkedPicture "[x.png]").enrich .default).Alike
        ((linkedPicture "[x.png]").enrich captionsAbove) := by
  refine ⟨by decide +kernel, by decide +kernel, ?_⟩
  refine captionPosition_moves .default .above (linkedPicture "[x.png]") ?_
  intro media mem source present
  have alone : ∀ media ∈ Node.mediaAll (linkedPicture "[x.png]").children,
      media.1.source? = some "[x.png]" ∧ media.1.title.directives = [] := by decide +kernel
  obtain ⟨source_eq, directives⟩ := alone media mem
  rw [present, Option.some.injEq] at source_eq
  subst source_eq
  refine ⟨by decide +kernel, ?_⟩
  intro name _ directive mem'
  rw [directives] at mem'
  cases mem'

end MediaMarkup
