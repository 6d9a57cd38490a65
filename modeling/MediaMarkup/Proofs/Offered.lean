import MediaMarkup.Proofs.Media

/-!
The caption of one figure. A media element asks for it as a child of the figure, or as a child of a
link that is one (`Node.captionOffered?`). A pass over the children of a figure keeps the
figcaptions that were there (`Pass.figcaptions_kept`); where there are none, the first child that
offers a caption decides (`Pass.figcaptions_offered`).
-/

namespace MediaMarkup

namespace Node

/-- The text of the figcaption that a node asks for, if it is a media element. -/
def captionAsked? : Node → Option String
  | .element head _ _ => if head.tag ∈ Media.tags then head.captionAsked? else none
  | _ => none

/-- The text that a child of a figure asks for as its caption: a link asks for what the first of its
children asks for. -/
def captionOffered? (node : Node) : Option String :=
  if node.hasTag "a" then node.children.findSome? captionAsked? else node.captionAsked?

/-- The figcaptions among some nodes. -/
def figcaptions (nodes : List Node) : List Node :=
  nodes.filter (hasTag "figcaption")

variable {head : Head} {children : List Node} {tail : String}

theorem captionAsked?_of_media (media : head.tag ∈ Media.tags) :
    (Node.element head children tail).captionAsked? = head.captionAsked? :=
  if_pos media

theorem captionAsked?_of_other (other : head.tag ∉ Media.tags) :
    (Node.element head children tail).captionAsked? = none :=
  if_neg other

theorem captionAsked?_of_noElement {node : Node} (h : node.isElement = false) :
    node.captionAsked? = none := by
  cases node with
  | element => simp [isElement, head?] at h
  | comment => rfl
  | instruction => rfl

theorem captionOffered?_of_media (media : head.tag ∈ Media.tags) :
    (Node.element head children tail).captionOffered? = head.captionAsked? := by
  have noLink : head.tag ≠ "a" := by
    intro same
    rw [same] at media
    exact absurd media (by decide)
  simp [captionOffered?, hasTag, tag?, head?, noLink, captionAsked?_of_media media]

theorem captionOffered?_of_other (other : head.tag ∉ Media.tags) :
    (Node.element head children tail).captionOffered? =
      if head.tag = "a" then children.findSome? captionAsked? else none := by
  simp [captionOffered?, hasTag, tag?, head?, Node.children, captionAsked?_of_other other]

theorem captionOffered?_of_noElement {node : Node} (h : node.isElement = false) :
    node.captionOffered? = none := by
  cases node with
  | element => simp [isElement, head?] at h
  | comment => rfl
  | instruction => rfl

/-- What a new figcaption holds asks for nothing. -/
theorem findSome?_captionAsked_figcaptions {nodes : List Node}
    (h : ∀ node ∈ nodes, ∃ text, node = figcaption text) :
    nodes.findSome? captionAsked? = none := by
  rw [List.findSome?_eq_none_iff]
  intro node mem
  obtain ⟨text, rfl⟩ := h node mem
  exact captionAsked?_of_other (show "figcaption" ∉ Media.tags by decide)

theorem figcaptions_append (xs ys : List Node) :
    figcaptions (xs ++ ys) = figcaptions xs ++ figcaptions ys :=
  List.filter_append ..

theorem figcaptions_cons (node : Node) (rest : List Node) :
    figcaptions (node :: rest) = figcaptions [node] ++ figcaptions rest :=
  figcaptions_append [node] rest

theorem figcaptions_of_tag {node : Node} (h : node.hasTag "figcaption" = true) :
    figcaptions [node] = [node] :=
  List.filter_cons_of_pos h

theorem figcaptions_of_ne {node : Node} (h : node.hasTag "figcaption" = false) :
    figcaptions [node] = [] :=
  List.filter_cons_of_neg (by simp [h])

theorem figcaptions_of_noElement {node : Node} (h : node.isElement = false) :
    figcaptions [node] = [] := by
  apply figcaptions_of_ne
  cases node with
  | element => simp [isElement, head?] at h
  | comment => rfl
  | instruction => rfl

@[simp] theorem figcaptions_nil : figcaptions [] = [] := rfl

theorem hasFigcaption_eq_false {nodes : List Node} :
    hasFigcaption nodes = false ↔ figcaptions nodes = [] := by
  rw [hasFigcaption, figcaptions, List.any_eq_false, List.filter_eq_nil_iff]

/-- A figure without a figcaption that gets one has that one only. -/
theorem figcaptions_addCaption {before after : List Node}
    (none : figcaptions (before ++ after) = []) (settings : Settings) (text : String) :
    figcaptions ((captionFront settings (some (figcaption text)) ++ before) ++
      (after ++ captionBack settings (some (figcaption text)))) = [figcaption text] := by
  have new : figcaptions [figcaption text] = [figcaption text] := figcaptions_of_tag rfl
  rw [figcaptions_append, List.append_eq_nil_iff] at none
  simp only [figcaptions_append, none.1, none.2, List.append_nil, List.nil_append]
  unfold captionFront captionBack
  cases settings.captionsAbove with
  | true => rw [if_pos rfl, if_pos rfl, Option.toList_some, new]; rfl
  | false => rw [if_neg (by simp), if_neg (by simp), Option.toList_some, new]; rfl

end Node

/-! ## What is no figcaption -/

/-- What is put around a node is no figcaption. -/
theorem Frame.IsShell.isFigcaption_attach {frame : Frame} (isShell : frame.IsShell) (node : Node) :
    (frame.attach node).hasTag "figcaption" = false := by
  rcases isShell.tag with isLink | isFigure
  · simp [attach, Node.hasTag, Node.tag?, Node.head?, isLink]
  · simp [attach, Node.hasTag, Node.tag?, Node.head?, isFigure]

theorem Node.isFigcaption_media {head : Head} (media : head.tag ∈ Media.tags)
    (children : List Node) (tail : String) :
    (Node.element head children tail).hasTag "figcaption" = false := by
  have noCaption : head.tag ≠ "figcaption" := by
    intro same
    rw [same] at media
    exact absurd media (by decide)
  simp [hasTag, tag?, head?, noCaption]

theorem Change.Handled.isFigcaption_slot {format : Format} {settings : Settings} {site : Site}
    {head : Head} {children : List Node} {change : Change}
    (handled : Handled format settings site head children change)
    (media : head.tag ∈ Media.tags) (tail : String) :
    (change.slot.withTail tail).hasTag "figcaption" = false := by
  obtain ⟨head', children', media_eq, media'⟩ := handled.media_eq media
  have slot_eq : change.slot.hasTag "figcaption" = false := by
    rw [slot, media_eq]
    exact Node.within_shells (motive := fun node => node.hasTag "figcaption" = false)
      handled.isShell (fun _ inner isShell _ => isShell.isFigcaption_attach inner)
      (Node.isFigcaption_media media' children' "")
  rw [← slot_eq]
  cases change.slot <;> rfl

/-- An element that is closed again is a figcaption if it was one. -/
theorem Level.isFigcaption_close {level : Level} (regular : level.Regular) (children : List Node)
    (tail : String) :
    (level.close children tail).hasTag "figcaption" = decide (level.head.tag = "figcaption") := by
  unfold close
  cases h : level.link with
  | none => simp [Node.hasTag, Node.tag?, Node.head?]
  | some link =>
    obtain ⟨isFigure, href, rfl⟩ := regular.link link h
    simp [Node.hasTag, Node.tag?, Node.head?, anchor, Head.new, isFigure]

/-! ## What a child hands on -/

/-- A media element gives the figure around it the caption that it asks for, unless there is one. -/
theorem Change.Handled.own_of_figure {format : Format} {settings : Settings} {level : Level}
    {nodes inner : List Node} {head : Head} {change : Change}
    (handled : Handled format settings (level.site nodes) head inner change)
    (isFigure : level.head.tag = "figure")
    (media : head.tag ∈ Media.tags) (tail : String) :
    level.own change.figcaption =
      if hasFigcaption nodes then Option.none
      else (Node.element head inner tail).captionOffered?.map MediaMarkup.figcaption := by
  have here : level.surroundings.figure? = some 0 := by
    rw [Level.surroundings, isFigure, Surroundings.figure?_ofTags]
  have asked := handled.figcaption_of_site
  simp only [Level.site, Level.captioned, here, Surroundings.insideFigure, Option.isSome_some,
    true_and] at asked
  rw [Level.own, if_pos here, asked, Node.captionOffered?_of_media media]
  cases hasFigcaption nodes <;> rfl

/-- A figcaption that comes to the children of an open element: that is a figure which had none. -/
def Level.Gains (nodes : List Node) (caption : Option Node) (level : Level) : Prop :=
  ∀ node ∈ caption, level.head.tag = "figure" ∧ hasFigcaption nodes = false ∧
    ∃ text, node = figcaption text

theorem Change.Handled.gains {format : Format} {settings : Settings} {level : Level}
    {nodes inner : List Node} {head : Head} {change : Change}
    (handled : Handled format settings (level.site nodes) head inner change) :
    level.Gains nodes (level.own change.figcaption) := by
  intro caption gained
  unfold Level.own at gained
  split at gained
  · rename_i here
    obtain ⟨-, uncaptioned, isCaption⟩ := handled.figcaption_eq gained
    simp only [Level.site, Level.captioned, here] at uncaptioned
    exact ⟨Surroundings.ofTags_inFigure here, uncaptioned, isCaption⟩
  · cases gained

namespace Pass

variable {format : Format} {settings : Settings} {level last below : Level}
  {before todo children inner inner' : List Node} {head : Head} {tail : String} {log : List Head}

/-- A link in a figure without a figcaption hands on what the first of its children asks for. -/
theorem caption_of_linkInFigure (pass : Pass format settings level before todo log last children)
    (linkInFigure : level.surroundings.figure? = some 1) :
    last.caption = level.caption.or (if level.outerCaptioned then none
      else (todo.findSome? Node.captionAsked?).map figcaption) := by
  induction pass with
  | done => simp
  | skip noElement _ ih =>
    rw [ih linkInFigure, List.findSome?_cons, Node.captionAsked?_of_noElement noElement]
  | @visit level last before todo children inner head tail change log media handled rest ih =>
    have asked := handled.figcaption_of_site
    rw [ih (handled.figure?_visited.trans linkInFigure)]
    simp only [Level.site, Level.captioned, linkInFigure, Surroundings.insideFigure,
      Option.isSome_some, true_and] at asked
    have elsewhere : ¬level.surroundings.figure? = some 0 := by simp [linkInFigure]
    simp only [Level.linked, Level.caught, Level.own, if_neg elsewhere, captionBack, asked,
      List.findSome?_cons, Node.captionAsked?_of_media media]
    cases level.outerCaptioned <;> cases level.caption <;> cases head.captionAsked? <;> simp
  | @enter level last below before todo children inner inner' head tail log log' other inside kept
      rest innerIh ih =>
    have unasked : (captionBack settings below.caption).findSome? Node.captionAsked? = none :=
      Node.findSome?_captionAsked_figcaptions fun node mem =>
        inside.regular_below.caption node (mem_captionBack mem)
    rw [ih linkInFigure, List.findSome?_cons, Node.captionAsked?_of_other other,
      List.findSome?_append, unasked, Option.or_none]
  | @again level last below before todo children inner inner' head tail caption log log' other
      inside moved rest innerIh ih =>
    have isLink := (Surroundings.ofTags_linkInFigure linkInFigure).1
    have isFigure := (inside.linkInFigure_of_moved moved).2
    rw [isLink] at isFigure
    simp at isFigure

/-- Only a figure gets a caption of an element in it. -/
theorem caption_of_noFigure {siblings : List Node}
    (inside : Pass format settings (level.below head siblings) [] inner log below inner')
    (noFigure : level.head.tag ≠ "figure") : below.caption = none :=
  inside.caption_eq fun inFigure =>
    noFigure (Option.some.inj (Surroundings.ofTags_linkInFigure inFigure).2)

/-- An element gives the figure around it the caption that it offers, unless there is one. -/
theorem caption_of_figure {siblings : List Node}
    (inside : Pass format settings (level.below head siblings) [] inner log below inner')
    (isFigure : level.head.tag = "figure") (other : head.tag ∉ Media.tags) (tail : String) :
    below.caption = if hasFigcaption siblings then none
      else (Node.element head inner tail).captionOffered?.map figcaption := by
  rw [Node.captionOffered?_of_other other]
  by_cases isLink : head.tag = "a"
  · have inFigure : (level.below head siblings).surroundings.figure? = some 1 := by
      show (Surroundings.ofTags [some head.tag, some level.head.tag]).figure? = some 1
      rw [isLink, isFigure]
      rfl
    rw [inside.caption_of_linkInFigure inFigure, if_pos isLink]
    rfl
  · have elsewhere : (level.below head siblings).surroundings.figure? ≠ some 1 := fun inFigure =>
      isLink (Surroundings.ofTags_linkInFigure inFigure).1
    have noCaption : below.caption = none := inside.caption_eq elsewhere
    rw [noCaption, if_neg isLink]
    simp

end Pass

/-! ## The figcaptions of a figure -/

/-- A figcaption that a pass has walked: it stays the same element, and if there is no media element
in it, nothing of it has changed. -/
structure KeptCaption (old new : Node) : Prop where
  head : new.head? = old.head?
  tail : new.tail = old.tail
  whole : old.media = [] → new = old

namespace KeptCaption

theorem refl (node : Node) : KeptCaption node node := ⟨rfl, rfl, fun _ => rfl⟩

theorem trans {old mid new : Node} (first : KeptCaption old mid) (second : KeptCaption mid new) :
    KeptCaption old new where
  head := second.head.trans first.head
  tail := second.tail.trans first.tail
  whole noMedia := by
    have same := first.whole noMedia
    rw [← same] at noMedia
    rw [second.whole noMedia, same]

/-- A figcaption that a pass added stays as it is. -/
theorem eq_of_new {text : String} {nodes : List Node}
    (kept : List.Forall₂ KeptCaption [figcaption text] nodes) : nodes = [figcaption text] := by
  obtain ⟨node, rest, single, none, both⟩ := List.forall₂_cons_left_iff.mp kept
  rw [List.forall₂_nil_left_iff] at none
  rw [both, none, single.whole (Node.media_figcaption text)]

theorem refl_all (nodes : List Node) : List.Forall₂ KeptCaption nodes nodes :=
  List.forall₂_same.mpr fun node _ => refl node

end KeptCaption

theorem hasFigcaption_replace {old new : Node}
    (same : new.hasTag "figcaption" = old.hasTag "figcaption") (before todo : List Node) :
    hasFigcaption (before ++ [new] ++ todo) = hasFigcaption (before ++ old :: todo) := by
  simp [hasFigcaption, same]

/-- A link is no figcaption. -/
theorem hasFigcaption_link {head : Head} (isLink : head.tag = "a") (before inner todo : List Node)
    (tail : String) :
    hasFigcaption (before ++ .element head inner tail :: todo) =
      hasFigcaption (before ++ todo) := by
  simp [hasFigcaption, Node.hasTag, Node.tag?, Node.head?, isLink]

namespace Pass

variable {format : Format} {settings : Settings} {level last below : Level}
  {before todo children inner inner' : List Node} {head : Head} {tail : String} {log : List Head}

theorem hasTag_closed {siblings : List Node}
    (inside : Pass format settings (level.below head siblings) [] inner log below inner')
    (tail : String) :
    (below.close inner' tail).hasTag "figcaption" =
      (Node.element head inner tail).hasTag "figcaption" := by
  have closed := below.isFigcaption_close inside.regular_below inner' tail
  rw [inside.head_below] at closed
  rw [closed]
  simp [Node.hasTag, Node.tag?, Node.head?]

theorem kept_closed {siblings : List Node}
    (inside : Pass format settings (level.below head siblings) [] inner log below inner')
    (other : head.tag ∉ Media.tags) (tail : String) :
    List.Forall₂ KeptCaption (Node.figcaptions [.element head inner tail])
      (Node.figcaptions [below.close inner' tail]) := by
  have tagged := inside.hasTag_closed tail
  cases isCaption : (Node.element head inner tail).hasTag "figcaption" with
  | false =>
    rw [Node.figcaptions_of_ne isCaption, Node.figcaptions_of_ne (tagged.trans isCaption)]
    exact .nil
  | true =>
    rw [Node.figcaptions_of_tag isCaption, Node.figcaptions_of_tag (tagged.trans isCaption)]
    have head_eq := inside.head_below
    have unlinked : below.link = none := by
      rw [Option.eq_none_iff_forall_ne_some]
      intro link h
      have isFigure := (inside.regular_below.link link h).1
      rw [head_eq] at isFigure
      simp [Node.hasTag, Node.tag?, Node.head?, isFigure] at isCaption
    refine .cons ⟨?_, ?_, fun noMedia => ?_⟩ .nil
    · simp [Level.close, unlinked, head_eq, Node.head?]
    · simp [Level.close, unlinked, Node.tail]
    · rw [Node.media_of_other other] at noMedia
      obtain ⟨rfl, rfl⟩ := inside.eq_of_noMedia noMedia
      rfl

/-- In a figure with a figcaption no element hands one on. -/
theorem caption_of_captioned
    (inside : Pass format settings (level.below head (before ++ todo)) [] inner log below inner')
    (isFigure : level.head.tag = "figure") (other : head.tag ∉ Media.tags)
    (captioned : hasFigcaption (before ++ .element head inner tail :: todo) = true) :
    below.caption = none := by
  rw [inside.caption_of_figure isFigure other tail]
  split
  · rfl
  · rename_i none
    -- the element is the figcaption itself, and no link
    have isCaption : head.tag = "figcaption" := by
      simpa [hasFigcaption, Node.hasTag, Node.tag?, Node.head?] using
        (show (Node.element head inner tail).hasTag "figcaption" = true by
          revert captioned none
          simp only [hasFigcaption, List.any_append, List.any_cons]
          cases before.any (Node.hasTag "figcaption") <;>
            cases todo.any (Node.hasTag "figcaption") <;> simp)
    rw [Node.captionOffered?_of_other other, isCaption]
    rfl

/-- In a figure without a figcaption an element hands on what it offers. -/
theorem caption_of_uncaptioned
    (inside : Pass format settings (level.below head (before ++ todo)) [] inner log below inner')
    (isFigure : level.head.tag = "figure") (other : head.tag ∉ Media.tags)
    (uncaptioned : hasFigcaption (before ++ .element head inner tail :: todo) = false) :
    below.caption = (Node.element head inner tail).captionOffered?.map figcaption := by
  rw [inside.caption_of_figure isFigure other tail, if_neg]
  rw [hasFigcaption_append, Bool.or_eq_false_iff] at uncaptioned
  have behind := (Bool.or_eq_false_iff.mp uncaptioned.2).2
  simp [hasFigcaption_append, uncaptioned.1, show hasFigcaption todo = false from behind]

/-- A figure keeps the figcaptions that it has. -/
theorem figcaptions_kept (pass : Pass format settings level before todo log last children)
    (isFigure : level.head.tag = "figure") (captioned : hasFigcaption (before ++ todo) = true) :
    ∃ kept, Node.figcaptions children = Node.figcaptions before ++ kept ∧
      List.Forall₂ KeptCaption (Node.figcaptions todo) kept := by
  induction pass with
  | done => exact ⟨[], by simp, .nil⟩
  | @skip level last before todo children node log noElement rest ih =>
    obtain ⟨kept, eq, related⟩ := ih isFigure (by simpa using captioned)
    have none := Node.figcaptions_of_noElement noElement
    rw [Node.figcaptions_append, none, List.append_nil] at eq
    rw [Node.figcaptions_cons, none]
    exact ⟨kept, eq, related⟩
  | @visit level last before todo children inner head tail change log media handled rest ih =>
    have none := handled.own_of_figure isFigure media tail
    rw [if_pos captioned] at none
    have slot := handled.isFigcaption_slot media tail
    have old := Node.isFigcaption_media media inner tail
    rw [none] at ih
    simp only [captionFront, captionBack, Option.toList_none, ite_self, List.nil_append,
      List.append_nil] at ih
    obtain ⟨kept, eq, related⟩ := ih (by simpa [Level.linked] using isFigure)
      ((hasFigcaption_replace (slot.trans old.symm) before todo).trans captioned)
    rw [Node.figcaptions_append, Node.figcaptions_of_ne slot, List.append_nil] at eq
    rw [Node.figcaptions_cons, Node.figcaptions_of_ne old]
    exact ⟨kept, eq, related⟩
  | @enter level last below before todo children inner inner' head tail log log' other inside kept
      rest innerIh ih =>
    have none := inside.caption_of_captioned isFigure other captioned
    rw [none] at ih
    simp only [captionBack, Option.toList_none, ite_self, List.append_nil] at ih
    obtain ⟨kept, eq, related⟩ := ih isFigure
      ((hasFigcaption_replace (inside.hasTag_closed tail) before todo).trans captioned)
    refine ⟨Node.figcaptions [below.close inner' tail] ++ kept, ?_, ?_⟩
    · rw [eq, Node.figcaptions_append, List.append_assoc]
    · rw [Node.figcaptions_cons]
      exact List.rel_append (inside.kept_closed other tail) related
  | again other inside moved =>
    have none := inside.caption_of_captioned isFigure other captioned
    simp [none, captionFront] at moved

/-- The only figcaption of a figure stays as it is if it is new. -/
theorem figcaptions_of_new (pass : Pass format settings level before todo log last children)
    (isFigure : level.head.tag = "figure") {text : String}
    (new : Node.figcaptions (before ++ todo) = [figcaption text]) :
    Node.figcaptions children = [figcaption text] := by
  have captioned : hasFigcaption (before ++ todo) = true := by
    rw [← Bool.not_eq_false, Node.hasFigcaption_eq_false, new]
    exact List.cons_ne_nil _ _
  obtain ⟨kept, eq, related⟩ := pass.figcaptions_kept isFigure captioned
  have all : List.Forall₂ KeptCaption (Node.figcaptions (before ++ todo))
      (Node.figcaptions children) := by
    rw [eq, Node.figcaptions_append]
    exact List.rel_append (KeptCaption.refl_all _) related
  rw [new] at all
  exact KeptCaption.eq_of_new all

/-- A figure without a figcaption gets the one that the first of its children offers. -/
theorem figcaptions_offered (pass : Pass format settings level before todo log last children)
    (isFigure : level.head.tag = "figure") (uncaptioned : hasFigcaption (before ++ todo) = false) :
    Node.figcaptions children = ((todo.findSome? Node.captionOffered?).map figcaption).toList := by
  induction pass with
  | done =>
    rw [List.append_nil, Node.hasFigcaption_eq_false] at uncaptioned
    exact uncaptioned
  | @skip level last before todo children node log noElement rest ih =>
    rw [ih isFigure (by simpa using uncaptioned), List.findSome?_cons,
      Node.captionOffered?_of_noElement noElement]
  | @visit level last before todo children inner head tail change log media handled rest ih =>
    have isFigure' : ((level.caught change.figcaption).linked change.parentLink).head.tag =
        "figure" := by simpa [Level.linked] using isFigure
    have slot := handled.isFigcaption_slot media tail
    have old := Node.isFigcaption_media media inner tail
    have replaced := (hasFigcaption_replace (slot.trans old.symm) before todo).trans uncaptioned
    have own := handled.own_of_figure isFigure media tail
    rw [if_neg (by simp [uncaptioned])] at own
    rw [own] at rest ih
    rw [List.findSome?_cons]
    cases offered : (Node.element head inner tail).captionOffered? with
    | none =>
      rw [offered] at ih
      simp only [captionFront, captionBack, Option.map_none, Option.toList_none, ite_self,
        List.nil_append, List.append_nil] at ih
      exact ih isFigure' replaced
    | some text =>
      rw [offered] at rest
      refine rest.figcaptions_of_new isFigure' ?_
      rw [Option.map_some, List.append_assoc (captionFront _ _)]
      exact Node.figcaptions_addCaption (Node.hasFigcaption_eq_false.mp replaced) settings text
  | @enter level last below before todo children inner inner' head tail log log' other inside kept
      rest innerIh ih =>
    have replaced := (hasFigcaption_replace (inside.hasTag_closed tail) before todo).trans
      uncaptioned
    have given := inside.caption_of_uncaptioned isFigure other uncaptioned
    rw [List.findSome?_cons]
    cases offered : (Node.element head inner tail).captionOffered? with
    | none =>
      rw [given, offered] at ih
      simp only [captionBack, Option.map_none, Option.toList_none, ite_self,
        List.append_nil] at ih
      exact ih isFigure replaced
    | some text =>
      rw [offered, Option.map_some] at given
      have one := Node.figcaptions_addCaption (Node.hasFigcaption_eq_false.mp replaced) settings
        text
      rw [← given, kept, List.nil_append] at one
      exact rest.figcaptions_of_new isFigure one
  | @again level last below before todo children inner inner' head tail caption log log' other
      inside moved rest innerIh ih =>
    have given := inside.caption_of_uncaptioned isFigure other uncaptioned
    obtain ⟨above, gave⟩ := captionFront_moved moved
    rw [gave, eq_comm, Option.map_eq_some_iff] at given
    obtain ⟨text, offered, rfl⟩ := given
    have replaced : hasFigcaption (before ++ below.close inner' tail :: todo) = false := by
      simpa using (hasFigcaption_replace (inside.hasTag_closed tail) before todo).trans uncaptioned
    have one := Node.figcaptions_addCaption (Node.hasFigcaption_eq_false.mp replaced) settings text
    rw [List.findSome?_cons, offered]
    refine rest.figcaptions_of_new isFigure ?_
    simpa [captionFront, captionBack, above] using one

end Pass

end MediaMarkup
