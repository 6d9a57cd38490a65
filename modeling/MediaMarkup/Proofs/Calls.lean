import MediaMarkup.Proofs.LevelRun
import MediaMarkup.Proofs.Offered
import MediaMarkup.Proofs.Paragraphs
import MediaMarkup.Proofs.Visited

/-!
Which elements a pass hands to its visitor. A figcaption that a link asks for goes in front of the
link into the figure around it, and the walk, which goes on by index, meets the link once more: its
media elements are then handled a second time (`Level.rewalks`). Main statement: every media element
is handled once, in document order, just where this does not happen (`handledOnce_iff`).
-/

namespace MediaMarkup

/-! ## Figures with a caption from a link -/

namespace Node

/-- Whether a node is a media element that asks for a caption. -/
def asksCaption : Node → Bool
  | .element head _ _ => decide (head.tag ∈ Media.tags) && head.captionAsked?.isSome
  | _ => false

/-- Whether a node is a link with such an element among its children. -/
def linkAsksCaption (node : Node) : Bool :=
  node.hasTag "a" && node.children.any asksCaption

/-- Whether the first of the nodes that ask for a caption is a link. -/
def captionFromLink : List Node → Bool
  | [] => false
  | node :: rest => !node.asksCaption && (node.linkAsksCaption || captionFromLink rest)

/-- Whether an element is a figure that gets its caption from a link. -/
def captionedByLink (head : Head) (children : List Node) : Bool :=
  decide (head.tag = "figure") && !hasFigcaption children && captionFromLink children

end Node

/-- The search for a figure that gets its caption from a link. -/
def Search.captionedByLink : Search := fun head children =>
  if head.tag ∈ Media.tags then some false
  else if Node.captionedByLink head children then some true
  else none

/-- Whether a pass that has the children `todo` of the open element before it meets some elements
again. -/
def Level.rewalks (settings : Settings) (before todo : List Node) (level : Level) : Bool :=
  settings.captionsAbove &&
    (decide (level.head.tag = "figure") && !hasFigcaption (before ++ todo) &&
        Node.captionFromLink todo ||
      Node.findsAny .captionedByLink todo)

/-- Whether a pass over a document meets some elements again. -/
def Node.rewalks (settings : Settings) : Node → Bool
  | .element head children _ => (Level.root head).rewalks settings [] children
  | _ => false

/-! ## Who asks -/

namespace Node

variable {head : Head} {children : List Node} {tail : String}

theorem asksCaption_of_media (media : head.tag ∈ Media.tags) :
    (Node.element head children tail).asksCaption = head.captionAsked?.isSome := by
  simp [asksCaption, media]

theorem asksCaption_of_other (other : head.tag ∉ Media.tags) :
    (Node.element head children tail).asksCaption = false := by
  simp [asksCaption, other]

theorem asksCaption_of_noElement {node : Node} (h : node.isElement = false) :
    node.asksCaption = false := by
  cases node with
  | element => simp [isElement, head?] at h
  | comment => rfl
  | instruction => rfl

theorem isSome_captionAsked? (node : Node) : node.captionAsked?.isSome = node.asksCaption := by
  cases node with
  | element head children tail =>
    by_cases media : head.tag ∈ Media.tags
    · rw [captionAsked?_of_media media, asksCaption_of_media media]
    · rw [captionAsked?_of_other media, asksCaption_of_other media]
      rfl
  | comment => rfl
  | instruction => rfl

theorem isSome_findSome?_captionAsked (nodes : List Node) :
    (nodes.findSome? captionAsked?).isSome = nodes.any asksCaption := by
  simp only [List.isSome_findSome?, isSome_captionAsked?]

theorem linkAsksCaption_of_ne (noLink : head.tag ≠ "a") :
    (Node.element head children tail).linkAsksCaption = false := by
  simp [linkAsksCaption, hasTag, tag?, head?, noLink]

theorem linkAsksCaption_of_link (isLink : head.tag = "a") :
    (Node.element head children tail).linkAsksCaption = children.any asksCaption := by
  simp [linkAsksCaption, hasTag, tag?, head?, isLink, Node.children]

theorem linkAsksCaption_of_noElement {node : Node} (h : node.isElement = false) :
    node.linkAsksCaption = false := by
  cases node with
  | element => simp [isElement, head?] at h
  | comment => rfl
  | instruction => rfl

/-- Where an element asks for a caption there is a media element. -/
theorem mediaAll_of_asksCaption {nodes : List Node} (h : nodes.any asksCaption = true) :
    mediaAll nodes ≠ [] := by
  rw [List.any_eq_true] at h
  obtain ⟨node, mem, asks⟩ := h
  obtain ⟨before, after, rfl⟩ := List.append_of_mem mem
  cases node with
  | element head children tail =>
    simp only [asksCaption, Bool.and_eq_true, decide_eq_true_eq] at asks
    rw [mediaAll_append, mediaAll_cons, media_of_media asks.1]
    simp
  | comment => cases asks
  | instruction => cases asks

theorem finds_captionedByLink_of_media (media : head.tag ∈ Media.tags) :
    (Node.element head children tail).finds .captionedByLink = false :=
  finds_of_some (if_pos media)

theorem finds_captionedByLink_of_other (other : head.tag ∉ Media.tags) :
    (Node.element head children tail).finds .captionedByLink =
      (captionedByLink head children || findsAny .captionedByLink children) := by
  rw [finds_element, Search.captionedByLink, if_neg other]
  cases captionedByLink head children <;> rfl

end Node

/-! ## One step of a pass -/

namespace Level

variable {settings : Settings} {level : Level} {before todo : List Node}

theorem rewalks_of_captionsBelow (captionsBelow : settings.captionsAbove = false) :
    level.rewalks settings before todo = false := by
  rw [rewalks, captionsBelow, Bool.false_and]

theorem rewalks_nil : level.rewalks settings before [] = false := by
  simp [rewalks, Node.captionFromLink]

theorem rewalks_skip {node : Node} (noElement : node.isElement = false) :
    level.rewalks settings (before ++ [node]) todo =
      level.rewalks settings before (node :: todo) := by
  simp only [rewalks, Node.captionFromLink, Node.asksCaption_of_noElement noElement,
    Node.linkAsksCaption_of_noElement noElement, Node.findsAny_cons,
    Node.finds_of_noElement noElement, List.append_assoc, List.singleton_append, Bool.not_false,
    Bool.true_and, Bool.false_or]

/-- A pass over an element is one over its children. -/
theorem rewalks_below {head : Head} {inner siblings : List Node} (other : head.tag ∉ Media.tags)
    (tail : String) :
    (level.below head siblings).rewalks settings [] inner =
      (settings.captionsAbove && (Node.element head inner tail).finds .captionedByLink) := by
  rw [rewalks, Node.finds_captionedByLink_of_other other]
  rfl

end Level

namespace Change.Handled

variable {settings : Settings} {level : Level} {before todo inner : List Node} {head : Head}
  {tail : String} {change : Change}

/-- After a media element was handled, the walk comes back if it did so before. -/
theorem rewalks_visit
    (handled : Handled .data settings (level.site (before ++ .element head inner tail :: todo)) head
      inner change)
    (media : head.tag ∈ Media.tags) :
    ((level.caught change.figcaption).linked change.parentLink).rewalks settings
        (captionFront settings (level.own change.figcaption) ++ before ++
          [change.slot.withTail tail])
        (todo ++ captionBack settings (level.own change.figcaption)) =
      level.rewalks settings before (.element head inner tail :: todo) := by
  cases above : settings.captionsAbove with
  | false => rw [Level.rewalks_of_captionsBelow above, Level.rewalks_of_captionsBelow above]
  | true =>
    have own := level.own_figcaption handled
    have noLink : head.tag ≠ "a" := by
      intro same
      rw [same] at media
      exact absurd media (by decide)
    have noBack : captionBack settings (level.own change.figcaption) = [] := by
      rw [captionBack, if_pos above]
    have slot := handled.isFigcaption_slot media tail
    have old := Node.isFigcaption_media media inner tail
    have has : hasFigcaption (captionFront settings (level.own change.figcaption) ++ before ++
        [change.slot.withTail tail] ++ todo) =
          (hasFigcaption (before ++ .element head inner tail :: todo) ||
            (level.own change.figcaption).isSome) := by
      have added : hasFigcaption (captionFront settings (level.own change.figcaption) ++
          (before ++ [change.slot.withTail tail]) ++
            (todo ++ captionBack settings (level.own change.figcaption))) = _ :=
        hasFigcaption_addCaption own (before ++ [change.slot.withTail tail]) todo
      rw [noBack, List.append_nil, ← List.append_assoc] at added
      rw [added, hasFigcaption_replace (slot.trans old.symm)]
    have asked := handled.figcaption_of_site
    simp only [Level.rewalks, Level.linked, Level.caught_head, noBack, List.append_nil, has,
      Node.captionFromLink, Node.findsAny_cons, Node.finds_captionedByLink_of_media media,
      Node.asksCaption_of_media media, Node.linkAsksCaption_of_ne noLink, Bool.false_or]
    by_cases isFigure : level.head.tag = "figure"
    · have here : level.surroundings.figure? = some 0 := by
        rw [Level.surroundings, isFigure, Surroundings.figure?_ofTags]
      have own_eq : level.own change.figcaption = change.figcaption := if_pos here
      simp only [Level.site, Level.captioned, here, Surroundings.insideFigure, Option.isSome_some,
        true_and] at asked
      rw [own_eq, asked]
      cases hasFigcaption (before ++ .element head inner tail :: todo) <;>
        cases head.captionAsked? <;> simp
    · simp [isFigure]

end Change.Handled

namespace Pass

variable {settings : Settings} {level last below : Level} {before todo children inner inner' :
  List Node} {head : Head} {tail : String} {log : List Head}

/-- An element hands a figcaption on if it is a link that asks for the caption of its figure. -/
theorem isSome_caption_below {siblings : List Node} (other : head.tag ∉ Media.tags)
    (inside : Pass .data settings (level.below head siblings) [] inner log below inner') :
    below.caption.isSome =
      (decide (head.tag = "a") && decide (level.head.tag = "figure") &&
        !hasFigcaption siblings && inner.any Node.asksCaption) := by
  by_cases isFigure : level.head.tag = "figure"
  · rw [inside.caption_of_figure isFigure other "", Node.captionOffered?_of_other other,
      ← Node.isSome_findSome?_captionAsked]
    by_cases isLink : head.tag = "a"
    · rw [if_pos isLink, isFigure, isLink]
      cases hasFigcaption siblings with
      | true => rfl
      | false => exact Option.isSome_map
    · simp [isLink]
  · rw [inside.caption_of_noFigure isFigure]
    simp [isFigure]

/-- Where the walk goes on behind an element, it comes back to some element in it, or to a later
one, or not at all. -/
theorem rewalks_enter (other : head.tag ∉ Media.tags)
    (inside : Pass .data settings (level.below head (before ++ todo)) [] inner log below inner')
    (kept : captionFront settings below.caption = []) :
    level.rewalks settings before (.element head inner tail :: todo) =
      ((level.below head (before ++ todo)).rewalks settings [] inner ||
        level.rewalks settings (before ++ [below.close inner' tail])
          (todo ++ captionBack settings below.caption)) := by
  cases above : settings.captionsAbove with
  | false => simp only [Level.rewalks_of_captionsBelow above, Bool.or_false]
  | true =>
    have noCaption : below.caption = none := by
      rw [captionFront, if_pos above, Option.toList_eq_nil_iff] at kept
      exact kept
    have replaced := hasFigcaption_replace (inside.hasTag_closed tail) before todo
    have unasked := inside.isSome_caption_below other
    rw [noCaption, Option.isSome_none, eq_comm] at unasked
    have unlinked : (decide (level.head.tag = "figure") &&
        !hasFigcaption (before ++ .element head inner tail :: todo) &&
          (Node.element head inner tail).linkAsksCaption) = false := by
      by_cases isLink : head.tag = "a"
      · simp only [isLink, decide_true, Bool.true_and] at unasked
        rw [Node.linkAsksCaption_of_link isLink, hasFigcaption_link isLink, unasked]
      · rw [Node.linkAsksCaption_of_ne isLink, Bool.and_false]
    rw [Level.rewalks_below other tail, above, Bool.true_and]
    simp only [Level.rewalks, above, Bool.true_and, Node.findsAny_cons, captionBack, ↓reduceIte,
      List.append_nil, replaced, Node.captionFromLink, Node.asksCaption_of_other other,
      Bool.not_false]
    rw [Bool.and_or_distrib_left, unlinked, Bool.false_or, Bool.or_left_comm]

/-- Where the walk comes back to an element, it was bound to. -/
theorem rewalks_again {caption : Node} (other : head.tag ∉ Media.tags)
    (inside : Pass .data settings (level.below head (before ++ todo)) [] inner log below inner')
    (moved : captionFront settings below.caption = [caption]) :
    level.rewalks settings before (.element head inner tail :: todo) = true ∧
      Node.mediaAll inner ≠ [] := by
  have unmoved := captionFront_moved moved
  have asked := inside.isSome_caption_below other
  rw [unmoved.2, Option.isSome_some, eq_comm] at asked
  simp only [Bool.and_eq_true, Bool.not_eq_true', decide_eq_true_eq] at asked
  obtain ⟨⟨⟨isLink, isFigure⟩, uncaptioned⟩, asks⟩ := asked
  refine ⟨?_, Node.mediaAll_of_asksCaption asks⟩
  have uncaptioned' := (hasFigcaption_link isLink before inner todo tail).trans uncaptioned
  simp [Level.rewalks, unmoved.1, isFigure, uncaptioned', Node.captionFromLink,
    Node.asksCaption_of_other other, Node.linkAsksCaption_of_link isLink, asks]

/-- A walk that does not come back handles each media element once, in document order. -/
theorem calls_eq (pass : Pass .data settings level before todo log last children)
    (once : level.rewalks settings before todo = false) :
    log = (Node.mediaAll todo).map Prod.fst ∧
      ∃ media, Node.mediaAll children = Node.mediaAll before ++ media ∧
        List.Forall₂ (Visited settings) (Node.mediaAll todo) media := by
  induction pass with
  | done => exact ⟨by simp, [], by simp, by simp⟩
  | @skip level last before todo children node log noElement rest ih =>
    rw [← Level.rewalks_skip noElement] at once
    obtain ⟨log_eq, media, eq, related⟩ := ih once
    have none := Node.media_of_noElement noElement
    refine ⟨?_, media, ?_, ?_⟩
    · simpa [none] using log_eq
    · simpa [none] using eq
    · simpa [none] using related
  | @visit level last before todo children inner head tail change log media handled rest ih =>
    have own := level.own_figcaption handled
    obtain ⟨new, slot, visited⟩ := handled.media_slot media tail
    rw [← handled.rewalks_visit media] at once
    obtain ⟨log_eq, media', eq, related⟩ := ih once
    rw [Node.mediaAll_append, mediaAll_captionBack own, List.append_nil] at log_eq related
    rw [Node.mediaAll_cons, Node.media_of_media media]
    refine ⟨?_, new :: media', ?_, .cons visited related⟩
    · rw [log_eq]
      rfl
    · simpa [mediaAll_captionFront own, slot] using eq
  | @enter level last below before todo children inner inner' head tail log log' other inside kept
      rest innerIh ih =>
    have regular := inside.regular_below
    have closed := inside.media_below other tail
    rw [inside.rewalks_enter other kept, Bool.or_eq_false_iff] at once
    obtain ⟨log_eq, media, eq, related⟩ := innerIh once.1
    obtain ⟨log_eq', media', eq', related'⟩ := ih once.2
    rw [Node.mediaAll_append, mediaAll_captionBack regular.caption, List.append_nil]
      at log_eq' related'
    rw [Node.mediaAll_cons, Node.media_of_other other]
    refine ⟨?_, media ++ media', ?_, List.rel_append related related'⟩
    · rw [log_eq, log_eq', List.map_append]
    · simpa [closed, eq] using eq'
  | again other inside moved =>
    rw [(inside.rewalks_again other moved).1] at once
    cases once

/-- No media element is left out, and where the walk comes back, one is handled twice. -/
theorem length_calls (pass : Pass .data settings level before todo log last children) :
    (Node.mediaAll todo).length ≤ log.length ∧
      (level.rewalks settings before todo = true → (Node.mediaAll todo).length < log.length) := by
  induction pass with
  | done => simp [Level.rewalks_nil]
  | @skip level last before todo children node log noElement rest ih =>
    rw [← Level.rewalks_skip noElement, Node.mediaAll_cons, Node.media_of_noElement noElement]
    exact ih
  | @visit level last before todo children inner head tail change log media handled rest ih =>
    have own := level.own_figcaption handled
    rw [Node.mediaAll_append, mediaAll_captionBack own, List.append_nil,
      handled.rewalks_visit media] at ih
    rw [Node.mediaAll_cons, Node.media_of_media media, List.length_append, List.length_cons]
    obtain ⟨all, more⟩ := ih
    constructor
    · simp only [List.length_cons, List.length_nil]
      omega
    · intro back
      have more := more back
      simp only [List.length_cons, List.length_nil]
      omega
  | @enter level last below before todo children inner inner' head tail log log' other inside kept
      rest innerIh ih =>
    have regular := inside.regular_below
    rw [Node.mediaAll_append, mediaAll_captionBack regular.caption, List.append_nil] at ih
    rw [inside.rewalks_enter other kept, Bool.or_eq_true, Node.mediaAll_cons,
      Node.media_of_other other, List.length_append, List.length_append]
    obtain ⟨all, more⟩ := innerIh
    obtain ⟨all', more'⟩ := ih
    constructor
    · omega
    · rintro (back | back)
      · have more := more back
        omega
      · have more' := more' back
        omega
  | @again level last below before todo children inner inner' head tail caption log log' other
      inside moved rest innerIh ih =>
    have closed := inside.media_below other tail
    have bound : level.rewalks settings before (.element head inner tail :: todo) = true ∧
        Node.mediaAll inner ≠ [] := inside.rewalks_again other moved
    have present := List.length_pos_iff.mpr bound.2
    obtain ⟨kept, eq, related⟩ := inside.media_eq
    have same := related.length_eq
    rw [Node.mediaAll_nil, List.nil_append] at eq
    rw [Node.mediaAll_cons, closed, eq, List.length_append] at ih
    rw [Node.mediaAll_cons, Node.media_of_other other, List.length_append, List.length_append]
    obtain ⟨all, more⟩ := innerIh
    obtain ⟨all', more'⟩ := ih
    constructor
    · omega
    · intro back
      omega

end Pass

/-! ## Whole documents -/

/-- A media element before and after a pass that handled it once: one wrapper was taken off its
source, unless its title has a source of its own. -/
def OneLevel (old new : Head × List Node) : Prop :=
  new.1.mark = old.1.mark ∧ ∀ source, old.1.source? = some source → old.1.Unkeyed "src" →
    ShowsSource new (Link.ofSource source false).source

/-- A pass calls its visitor for every media element below the root that lies in no other one, once
and in document order, and takes one wrapper off their sources. -/
structure HandledOnce (settings : Settings) (tree : Node) : Prop where
  calls : tree.calls settings = (Node.mediaAll tree.children).map Prod.fst
  sources : List.Forall₂ OneLevel (Node.mediaAll tree.children)
    (Node.mediaAll (tree.enrich settings).tree.children)

theorem Visited.oneLevel {settings : Settings} {old mid new : Head × List Node}
    (visited : Visited settings old mid) (unravelled : Unravelled mid new) : OneLevel old new := by
  obtain ⟨head_eq, children_eq⟩ := unravelled
  refine ⟨by rw [head_eq, visited.mark_eq], fun source present unkeyed => ?_⟩
  rcases visited.showsSource present unkeyed with own | ⟨none, mime, player⟩
  · exact .inl (by rw [head_eq, own])
  · refine .inr ⟨by rw [head_eq, none], mime, ?_⟩
    rcases children_eq with same | unravelled
    · rw [same, player]
    · rw [unravelled, player]
      rfl

theorem HandledOnce.of_noElement {settings : Settings} {tree : Node}
    (noElement : tree.isElement = false) (noChildren : tree.children = []) :
    HandledOnce settings tree := by
  refine ⟨?_, ?_⟩
  · rw [Node.calls_of_noElement noElement, noChildren, Node.mediaAll_nil, List.map_nil]
  · rw [Node.enrich_of_noElement noElement, noChildren, Node.mediaAll_nil]
    exact .nil

/-- Where the walk never comes back, every media element is handled once. -/
theorem Pass.handledOnce {settings : Settings} {head : Head} {children children' : List Node}
    {tail : String} {last : Level}
    (pass : Pass .data settings (.root head) [] children
      ((Node.element head children tail).calls settings) last children')
    (tree_eq : ((Node.element head children tail).enrich settings).tree =
      (Node.element head children' tail).unravelIf settings)
    (once : (Node.element head children tail).rewalks settings = false) :
    HandledOnce settings (.element head children tail) := by
  obtain ⟨calls, media, eq, visited⟩ := pass.calls_eq once
  refine ⟨calls, ?_⟩
  have unravelled := Node.media_unravelIf settings (.element head children' tail)
  rw [tree_eq]
  rw [Node.children, eq, Node.mediaAll_nil, List.nil_append] at unravelled
  refine (forall₂_comp visited unravelled).imp ?_
  rintro old new ⟨mid, visited, unravelled⟩
  exact visited.oneLevel unravelled

/-- **Each media element is handled once.** A pass hands every media element below the root that
lies in no other one to its visitor exactly once, in document order, and takes one wrapper off its
source, just where it never walks a link again because the figure around it gets its caption from
there. -/
theorem handledOnce_iff (settings : Settings) (tree : Node)
    (finished : (tree.enrich settings).failure = none) :
    HandledOnce settings tree ↔
      settings.enable = true ∧ tree.rewalks settings = false ∨
        settings.enable = false ∧ Node.mediaAll tree.children = [] := by
  cases enabled : settings.enable with
  | false =>
    have uncalled : tree.calls settings = [] := by simp [Node.calls, enabled]
    constructor
    · intro once
      have calls := once.calls
      rw [uncalled, eq_comm, List.map_eq_nil_iff] at calls
      exact .inr ⟨rfl, calls⟩
    · rintro (⟨⟨⟩, -⟩ | ⟨-, none⟩)
      refine ⟨?_, ?_⟩
      · rw [uncalled, none, List.map_nil]
      · rw [Node.enrich_of_disabled enabled, none]
        exact .nil
  | true =>
    cases tree with
    | comment text tail => exact ⟨fun _ => .inl ⟨rfl, rfl⟩, fun _ => .of_noElement rfl rfl⟩
    | instruction text tail => exact ⟨fun _ => .inl ⟨rfl, rfl⟩, fun _ => .of_noElement rfl rfl⟩
    | element head children tail =>
      obtain ⟨last, children', pass, tree_eq⟩ := Node.enrich_pass enabled finished
      constructor
      · intro once
        have calls := congrArg List.length once.calls
        rw [List.length_map, Node.children] at calls
        refine .inl ⟨rfl, ?_⟩
        cases back : (Node.element head children tail).rewalks settings with
        | false => rfl
        | true =>
          have more := pass.length_calls.2 back
          omega
      · rintro (⟨-, once⟩ | ⟨⟨⟩, -⟩)
        exact pass.handledOnce tree_eq once

/-- A figure around a link around an image that asks for the figure's caption. -/
def linkedPicture (source : String) : Node :=
  .around "div" [.around "figure" [.around "a" [.picture source "^caption"]]]

/-- A caption below the link leaves the walk where it was. -/
theorem handledOnce_iff_captionBelow :
    ((linkedPicture "((x.png))").enrich .default).failure = none ∧
      HandledOnce .default (linkedPicture "((x.png))") := by
  have finished : ((linkedPicture "((x.png))").enrich .default).failure = none := by
    decide +kernel
  have kept : (linkedPicture "((x.png))").rewalks .default = false := by decide +kernel
  exact ⟨finished, (handledOnce_iff .default _ finished).mpr (.inl ⟨rfl, kept⟩)⟩

def captionsAbove : Settings := { Settings.default with captionPosition := .above }

/-- A caption above the link moves it, and the image in it loses both of its wrappers. -/
theorem not_handledOnce_captionAbove :
    ((linkedPicture "((x.png))").enrich captionsAbove).failure = none ∧
      ((linkedPicture "((x.png))").calls captionsAbove).length = 2 ∧
      ¬HandledOnce captionsAbove (linkedPicture "((x.png))") := by
  have twice : ((linkedPicture "((x.png))").calls captionsAbove).length = 2 := by decide +kernel
  refine ⟨by decide +kernel, twice, fun once => ?_⟩
  rw [once.calls, List.length_map] at twice
  have alone : (Node.mediaAll (linkedPicture "((x.png))").children).length = 1 := by
    decide +kernel
  omega

end MediaMarkup
