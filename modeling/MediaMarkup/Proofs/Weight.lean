import MediaMarkup.Proofs.InsideLink
import MediaMarkup.Proofs.Offered

/-!
What a pass can still add to a document. A media element gets a figure with a figcaption, and a
link, once at most, and a figure gets one figcaption. The weight of a document counts its nodes
together with what can still come to them. A pass makes no document heavier, however often it meets
an element (`Pass.weight_le`).
-/

namespace MediaMarkup

/-- A media element together with what it can still get around it: a figure and its figcaption where
it is in no figure, and a link where it is in none. -/
def Surroundings.room (surroundings : Surroundings) : Nat :=
  1 + (if surroundings.insideFigure then 0 else 2) + (if surroundings.insideLink then 0 else 1)

/-- What an element with a tag and children can still get among them: a figure without a figcaption
can get one. -/
def captionRoom (tag : String) (children : List Node) : Nat :=
  if tag = "figure" ∧ hasFigcaption children = false then 1 else 0

namespace Node

mutual

/-- The weight of a node in an element with a tag, around which is one with the tag `outer`. What is
in a media element is never walked. -/
def weight (parent : String) (outer : Option String) : Node → Nat
  | .element head children _ =>
    if head.tag ∈ Media.tags then (Surroundings.ofTags [some parent, outer]).room
    else 1 + captionRoom head.tag children + weights head.tag (some parent) children
  | _ => 1

def weights (parent : String) (outer : Option String) : List Node → Nat
  | [] => 0
  | node :: rest => weight parent outer node + weights parent outer rest

end

end Node

namespace Level

/-- The weight of the children of an open element, with what it can get itself. -/
def weight (children : List Node) (level : Level) : Nat :=
  level.link.toList.length + captionRoom level.head.tag children +
    Node.weights level.head.tag level.around children

/-- What is left of the children of an open element when some of them are walked. -/
def load (before todo : List Node) (level : Level) : Nat :=
  captionRoom level.head.tag (before ++ todo) + Node.weights level.head.tag level.around todo

end Level

/-! ## Weights of nodes -/

namespace Node

variable {parent : String} {outer : Option String} {head : Head} {children : List Node}
  {tail : String}

theorem weight_of_media (media : head.tag ∈ Media.tags) :
    (Node.element head children tail).weight parent outer =
      (Surroundings.ofTags [some parent, outer]).room := by
  rw [weight, if_pos media]

theorem weight_of_other (other : head.tag ∉ Media.tags) :
    (Node.element head children tail).weight parent outer =
      1 + captionRoom head.tag children + weights head.tag (some parent) children := by
  rw [weight, if_neg other]

theorem weight_of_noElement {node : Node} (noElement : node.isElement = false) :
    node.weight parent outer = 1 := by
  cases node with
  | element => simp [isElement, head?] at noElement
  | comment => rw [weight]; simp
  | instruction => rw [weight]; simp

theorem one_le_weight (parent : String) (outer : Option String) (node : Node) :
    1 ≤ node.weight parent outer := by
  cases node with
  | element head children tail =>
    rw [weight]
    split
    · unfold Surroundings.room
      omega
    · omega
  | comment => exact Nat.le_of_eq (weight_of_noElement rfl).symm
  | instruction => exact Nat.le_of_eq (weight_of_noElement rfl).symm

theorem weight_withTail (text : String) (node : Node) :
    (node.withTail text).weight parent outer = node.weight parent outer := by
  cases node <;> simp only [withTail, weight]

theorem weights_append (xs ys : List Node) :
    weights parent outer (xs ++ ys) = weights parent outer xs + weights parent outer ys := by
  induction xs with
  | nil => simp [weights]
  | cons node xs ih => simp [weights, ih, Nat.add_assoc]

theorem weight_figcaption (text : String) : (figcaption text).weight parent outer = 1 := by
  have other : (Head.new "figcaption" [] text).tag ∉ Media.tags :=
    show "figcaption" ∉ Media.tags by decide
  rw [figcaption, weight_of_other other]
  simp [captionRoom, Head.new, weights]

/-- A new link weighs as much as one node. -/
theorem weight_link (href : String) (node : Node) :
    ((shell (anchor href)).attach node).weight parent outer =
      1 + node.weight "a" (some parent) := by
  have other : (anchor href).tag ∉ Media.tags := show "a" ∉ Media.tags by decide
  simp only [Frame.attach, shell, List.nil_append]
  rw [weight_of_other other]
  simp [captionRoom, anchor, Head.new, weights]

/-- A new figure weighs as much as one with a figcaption. -/
theorem weight_figure (settings : Settings) (caption : Option String) (node : Node) :
    ((figureShell settings caption).attach node).weight parent outer ≤
      2 + node.weight "figure" (some parent) := by
  have other : (Head.new "figure" [] "").tag ∉ Media.tags :=
    show "figure" ∉ Media.tags by decide
  have tagged (text : String) : (figcaption text).hasTag "figcaption" = true := rfl
  cases caption with
  | none =>
    have plain : (figureShell settings none).attach node =
        .element (.new "figure" [] "") [node] "" := by
      unfold figureShell
      split <;> rfl
    rw [plain, weight_of_other other]
    simp only [weights, Head.new, captionRoom]
    split <;> omega
  | some text =>
    unfold figureShell
    split
    · simp only [Frame.attach]
      rw [weight_of_other other]
      simp [captionRoom, hasFigcaption, tagged, weights, weight_figcaption, Head.new]
      omega
    · simp only [Frame.attach]
      rw [weight_of_other other]
      simp [captionRoom, hasFigcaption, tagged, weights, weight_figcaption, Head.new]
      omega

end Node

/-! ## What stands in the slot of a media element -/

namespace Surroundings

theorem room_inLink (parent : String) :
    (ofTags [some "a", some parent]).room = if parent = "figure" then 1 else 3 := by
  by_cases isFigure : parent = "figure"
  · rw [isFigure, if_pos rfl]
    rfl
  · simp [ofTags, isFigure, room, insideFigure, figure?, insideLink, link?]

theorem room_inFigure (outer : Option String) :
    (ofTags [some "figure", outer]).room = if outer = some "a" then 1 else 2 := by
  by_cases isLink : outer = some "a"
  · rw [isLink, if_pos rfl]
    rfl
  · simp [ofTags, isLink, room, insideFigure, figure?, insideLink, link?]

variable {parent : String} {outer : Option String}

theorem ne_link_of_unlinked (unlinked : (ofTags [some parent, outer]).insideLink = false) :
    parent ≠ "a" := by
  rintro rfl
  rw [Bool.eq_false_iff] at unlinked
  exact unlinked (insideLink_ofTags.mpr (.inl rfl))

/-- The room where there is no figure. -/
theorem room_of_unfigured (unfigured : (ofTags [some parent, outer]).insideFigure = false) :
    (ofTags [some parent, outer]).room = if parent = "a" then 3 else 4 := by
  have noFigure : parent ≠ "figure" := by
    rintro rfl
    rw [insideFigure_ofTags] at unfigured
    cases unfigured
  have inLink : (ofTags [some parent, outer]).insideLink = decide (parent = "a") := by
    rw [Bool.eq_iff_iff, insideLink_ofTags]
    simp [noFigure]
  rw [room, unfigured, inLink]
  by_cases isLink : parent = "a" <;> simp [isLink]

theorem insideFigure_of_unlinked (unlinked : (ofTags [some parent, outer]).insideLink = false) :
    (ofTags [some parent, outer]).insideFigure = decide (parent = "figure") := by
  have noLink := ne_link_of_unlinked unlinked
  by_cases isFigure : parent = "figure"
  · rw [isFigure, insideFigure_ofTags]
    rfl
  · simp [ofTags, noLink, isFigure, insideFigure, figure?]

/-- The room where there is no link. -/
theorem room_of_unlinked (unlinked : (ofTags [some parent, outer]).insideLink = false) :
    (ofTags [some parent, outer]).room = if parent = "figure" then 2 else 4 := by
  rw [room, unlinked, insideFigure_of_unlinked unlinked]
  by_cases isFigure : parent = "figure" <;> simp [isFigure]

end Surroundings

section

variable {settings : Settings} {plan : Plan} {surroundings : Surroundings} {linkable : Bool}
  {parent : String} {outer : Option String} {head : Head} {children : List Node}

theorem Node.weight_media_inFigure (media : head.tag ∈ Media.tags) :
    (Node.element head children "").weight "figure" (some parent) =
      if parent = "a" then 1 else 2 := by
  simp [weight_of_media media, Surroundings.room_inFigure]

/-- A figure that a plan adds, with its link, comes to no more than the room of the element. -/
theorem Plan.weight_within_figure (media : head.tag ∈ Media.tags)
    (here : surroundings = .ofTags [some parent, outer]) (figured : plan.figure = true)
    (free : surroundings.insideFigure = false)
    (linked : plan.href.isSome = true → surroundings.insideLink = false) :
    ((Node.element head children "").within
      (plan.shells settings surroundings linkable)).weight parent outer ≤ surroundings.room := by
  subst here
  obtain ⟨figure, caption, href, outside⟩ := plan
  cases figured
  cases href with
  | none =>
    have slot : ((figureShell settings caption).attach (.element head children "")).weight parent
        outer ≤ _ := Node.weight_figure ..
    rw [Node.weight_media_inFigure media] at slot
    rw [Surroundings.room_of_unfigured free]
    simp only [shells, mediaLink, figureLink, Option.map_none, ite_self, Option.toList_none,
      List.map_nil, List.nil_append, ↓reduceIte, Node.within, List.foldl_cons, List.foldl_nil]
    split at slot <;> simp_all
  | some href =>
    rw [Surroundings.room_of_unfigured free, if_neg (Surroundings.ne_link_of_unlinked (linked rfl))]
    cases outside with
    | true =>
      have inner : ((figureShell settings caption).attach (.element head children "")).weight "a"
          (some parent) ≤ _ := Node.weight_figure ..
      rw [Node.weight_media_inFigure media, if_pos rfl] at inner
      simp only [shells, mediaLink, figureLink, Bool.true_and, Bool.true_or, ↓reduceIte,
        Option.map_some, Option.toList_none, Option.toList_some, List.map_nil, List.map_cons,
        List.nil_append, Node.within, List.foldl_cons, List.foldl_nil, Node.weight_link]
      omega
    | false =>
      have slot : ((figureShell settings caption).attach ((shell (anchor href)).attach
          (.element head children ""))).weight parent outer ≤ _ := Node.weight_figure ..
      rw [Node.weight_link, Node.weight_of_media media, Surroundings.room_inLink,
        if_pos rfl] at slot
      simpa [shells, mediaLink, figureLink, Node.within] using slot

/-- Without a new figure, the link that a plan adds comes to no more than the room of the element,
also where it goes around the figure that was there before. -/
theorem Plan.weight_within_link (media : head.tag ∈ Media.tags)
    (here : surroundings = .ofTags [some parent, outer]) (unfigured : plan.figure = false)
    (linked : plan.href.isSome = true → surroundings.insideLink = false) :
    (plan.parentLink surroundings linkable).toList.length +
        ((Node.element head children "").within
          (plan.shells settings surroundings linkable)).weight parent
            (((plan.parentLink surroundings linkable).map Head.tag).or outer) ≤
      surroundings.room := by
  subst here
  obtain ⟨figure, caption, href, outside⟩ := plan
  cases unfigured
  cases href with
  | none =>
    simp [shells, parentLink, mediaLink, figureLink, Node.within, Node.weight_of_media media]
  | some href =>
    have inFigure := Surroundings.insideFigure_of_unlinked (linked rfl)
    rw [Surroundings.room_of_unlinked (linked rfl)]
    by_cases around : outside = true ∧ parent = "figure" ∧ linkable = true
    · obtain ⟨rfl, rfl, rfl⟩ := around
      simp [shells, parentLink, mediaLink, figureLink, inFigure, Node.within,
        Node.weight_of_media media, Surroundings.room_inFigure, anchor, Head.new]
    · have noParent : parentLink ⟨false, caption, some href, outside⟩
          (.ofTags [some parent, outer]) linkable = none := by
        simp only [parentLink, figureLink, inFigure]
        cases outside <;> cases linkable <;> simp_all
      have own : mediaLink ⟨false, caption, some href, outside⟩ (.ofTags [some parent, outer])
          linkable = some (anchor href) := by
        simp only [mediaLink, inFigure]
        cases outside <;> cases linkable <;> simp_all
      simp only [noParent, shells, own, Bool.false_eq_true, ↓reduceIte, Option.toList_some,
        List.map_cons, List.map_nil, List.append_nil, Node.within, List.foldl_cons, List.foldl_nil,
        Node.weight_link, Node.weight_of_media media, Surroundings.room_inLink]
      by_cases isFigure : parent = "figure" <;> simp [isFigure]

end

/-- A link around a figure makes what is in the figure no heavier. -/
theorem Node.weights_inLink (outer : Option String) (nodes : List Node) :
    weights "figure" (some "a") nodes ≤ weights "figure" outer nodes := by
  induction nodes with
  | nil => exact Nat.le_refl _
  | cons node rest ih =>
    have first : node.weight "figure" (some "a") ≤ node.weight "figure" outer := by
      cases node with
      | element head children tail =>
        by_cases media : head.tag ∈ Media.tags
        · rw [weight_of_media media, weight_of_media media, Surroundings.room_inFigure,
            Surroundings.room_inFigure, if_pos rfl]
          split <;> omega
        · exact Nat.le_of_eq (by rw [weight_of_other media, weight_of_other media])
      | comment | instruction => exact Nat.le_refl _
    rw [weights, weights]
    omega

theorem Level.around_eq (level : Level) :
    level.around = (level.link.map Head.tag).or level.outer := by
  unfold around
  cases level.link <;> rfl

/-- The level after an element was handled is in the new link, if there is one. -/
theorem Level.around_visited (caption : Option Node) (link : Option Head) (level : Level) :
    ((level.caught caption).linked link).around = (link.map Head.tag).or level.around := by
  rw [around_eq, around_eq, linked, caught_link, caught_outer]
  cases link <;> rfl

namespace Change.Handled

variable {format : Format} {settings : Settings} {level : Level} {nodes inner : List Node}
  {head : Head} {change : Change}

/-- A media element that was handled is no heavier with all that was put around it, the link around
the figure included. -/
theorem weight_slot (handled : Handled format settings (level.site nodes) head inner change)
    (media : head.tag ∈ Media.tags) (tail : String) :
    change.parentLink.toList.length + (change.slot.withTail tail).weight level.head.tag
        ((level.caught change.figcaption).linked change.parentLink).around ≤
      (Node.element head inner tail).weight level.head.tag level.around := by
  rw [Level.around_visited, Node.weight_withTail, Node.weight_of_media media]
  obtain ⟨head', children', media_eq, media'⟩ := handled.media_eq media
  rw [slot, media_eq]
  cases handled with
  | untouched => simp [none, Node.within, Node.weight_of_media media']
  | @changed request derived media events asked derives merges finishes =>
    have linked : (request.plan (level.site nodes)).href.isSome = true →
        level.surroundings.insideLink = false := by
      rw [Request.isSome_href_plan asked, Bool.and_eq_true, Bool.not_eq_true']
      exact And.right
    cases figured : (request.plan (level.site nodes)).figure with
    | true =>
      have free : level.surroundings.insideFigure = false := by
        simp only [Request.plan, Plan.make, Bool.and_eq_true, Bool.not_eq_true'] at figured
        exact figured.2
      have unlinked : (request.plan (level.site nodes)).parentLink
          (level.site nodes).surroundings (level.site nodes).linkable = Option.none := by
        simp [Plan.parentLink, figured]
      rw [unlinked]
      simp only [Option.toList_none, List.length_nil, Nat.zero_add, Option.map_none, Option.none_or]
      exact Plan.weight_within_figure media' rfl figured free linked
    | false => exact Plan.weight_within_link media' rfl figured linked

/-- A link around the figure makes the other children no heavier. -/
theorem weights_visited (handled : Handled format settings (level.site nodes) head inner change)
    (others : List Node) :
    Node.weights level.head.tag
        ((level.caught change.figcaption).linked change.parentLink).around others ≤
      Node.weights level.head.tag level.around others := by
  rw [Level.around_visited]
  cases h : change.parentLink with
  | none => exact Nat.le_refl _
  | some link =>
    obtain ⟨inFigure, -, href, rfl⟩ := handled.parentLink_eq h
    have isFigure : level.head.tag = "figure" := (Surroundings.ofTags_figure inFigure).1
    rw [isFigure]
    exact Node.weights_inLink level.around others

end Change.Handled

/-! ## Figcaptions -/

theorem Pass.gains {format : Format} {settings : Settings} {level below : Level}
    {before todo inner inner' : List Node} {head : Head} {log : List Head}
    (inside : Pass format settings (level.below head (before ++ todo)) [] inner log below inner')
    (other : head.tag ∉ Media.tags) (tail : String) :
    level.Gains (before ++ .element head inner tail :: todo) below.caption := by
  intro caption gained
  have isFigure : level.head.tag = "figure" := by
    by_contra noFigure
    rw [inside.caption_of_noFigure noFigure] at gained
    cases gained
  refine ⟨isFigure, ?_, inside.regular_below.caption caption gained⟩
  rw [← Bool.not_eq_true]
  intro captioned
  rw [inside.caption_of_captioned isFigure other captioned] at gained
  cases gained

namespace Level.Gains

variable {level : Level} {caption : Option Node} {nodes : List Node}

/-- A figcaption takes the room that there was for it. -/
theorem captionRoom_le (settings : Settings) (gains : level.Gains nodes caption)
    {before after : List Node} (same : hasFigcaption (before ++ after) = hasFigcaption nodes) :
    captionRoom level.head.tag ((captionFront settings caption ++ before) ++
        (after ++ captionBack settings caption)) + caption.toList.length ≤
      captionRoom level.head.tag nodes := by
  cases caption with
  | none => simp [captionRoom, captionFront, captionBack, same]
  | some node =>
    obtain ⟨isFigure, uncaptioned, isCaption⟩ := gains node rfl
    have new : ∀ other ∈ some node, ∃ text, other = figcaption text := by
      rintro _ ⟨⟩
      exact isCaption
    have captioned : hasFigcaption ((captionFront settings (some node) ++ before) ++
        (after ++ captionBack settings (some node))) = true := by
      rw [hasFigcaption_addCaption new, Option.isSome_some, Bool.or_true]
    simp only [captionRoom, captioned, isFigure, uncaptioned]
    simp

theorem weights_eq (settings : Settings) (gains : level.Gains nodes caption) (parent : String)
    (outer : Option String) :
    Node.weights parent outer (captionFront settings caption) +
      Node.weights parent outer (captionBack settings caption) = caption.toList.length := by
  cases caption with
  | none => simp [captionFront, captionBack, Node.weights]
  | some node =>
    obtain ⟨-, -, text, rfl⟩ := gains node rfl
    unfold captionFront captionBack
    cases settings.captionsAbove <;> simp [Node.weights, Node.weight_figcaption]

end Level.Gains

/-! ## Passes -/

section

variable {level next : Level} {caption : Option Node} {before todo : List Node} {old slot : Node}

/-- An open element gets no heavier when one of its children is replaced by something lighter, also
if the figcaption that the child asked for comes to it. -/
theorem Level.weight_step (settings : Settings) (head_eq : next.head = level.head)
    (gains : level.Gains (before ++ old :: todo) caption)
    (same : slot.hasTag "figcaption" = old.hasTag "figcaption")
    (lighter : next.link.toList.length + slot.weight level.head.tag next.around ≤
      level.link.toList.length + old.weight level.head.tag level.around)
    (others : ∀ nodes, Node.weights level.head.tag next.around nodes ≤
      Node.weights level.head.tag level.around nodes) :
    next.weight (captionFront settings caption ++ before ++ [slot] ++
        (todo ++ captionBack settings caption)) ≤ level.weight (before ++ old :: todo) := by
  have room := gains.captionRoom_le settings (hasFigcaption_replace same before todo)
  have captions := gains.weights_eq settings level.head.tag next.around
  have behind := others todo
  have front := others before
  rw [← List.append_assoc (captionFront settings caption)] at room
  simp only [Level.weight, head_eq, Node.weights_append, Node.weights, Nat.add_zero]
  omega

/-- When a child is walked, the load becomes smaller by one at least. -/
theorem Level.load_step (settings : Settings) (head_eq : next.head = level.head)
    (gains : level.Gains (before ++ old :: todo) caption)
    (same : slot.hasTag "figcaption" = old.hasTag "figcaption")
    (others : ∀ nodes, Node.weights level.head.tag next.around nodes ≤
      Node.weights level.head.tag level.around nodes) :
    next.load (captionFront settings caption ++ before ++ [slot])
        (todo ++ captionBack settings caption) < level.load before (old :: todo) := by
  have room := gains.captionRoom_le settings (hasFigcaption_replace same before todo)
  have captions := gains.weights_eq settings level.head.tag next.around
  have behind := others todo
  have one := old.one_le_weight level.head.tag level.around
  rw [← List.append_assoc (captionFront settings caption)] at room
  simp only [Level.load, head_eq, Node.weights_append, Node.weights]
  omega

end

theorem captionBack_moved {settings : Settings} {caption : Option Node} {node : Node}
    (moved : captionFront settings caption = [node]) : captionBack settings caption = [] := by
  rw [captionBack, if_pos (captionFront_moved moved).1]

namespace Pass

variable {format : Format} {settings : Settings} {level last below : Level}
  {before todo children siblings inner inner' : List Node} {head : Head} {log : List Head}

/-- An element that is closed again weighs one more than its level. -/
theorem weight_close
    (inside : Pass format settings (level.below head siblings) [] inner log below inner')
    (other : head.tag ∉ Media.tags) (outer : Option String) (tail : String) :
    (below.close inner' tail).weight level.head.tag outer = 1 + below.weight inner' := by
  obtain ⟨head_eq, outer_eq, -⟩ := inside.level_eq
  have other' : below.head.tag ∉ Media.tags := by rwa [head_eq]
  have placed : below.outer = some level.head.tag := outer_eq
  unfold Level.close Level.weight Level.around
  cases h : below.link with
  | none =>
    rw [Node.weight_of_other other', placed]
    simp only [Option.toList_none, List.length_nil]
    omega
  | some link =>
    obtain ⟨-, href, rfl⟩ := inside.regular_below.link link h
    have linked : (anchor href).tag ∉ Media.tags := show "a" ∉ Media.tags by decide
    dsimp only
    rw [Node.weight_of_other linked, Node.weights, Node.weight_of_other other']
    simp [captionRoom, anchor, Head.new, Node.weights]

/-- An element that was walked is no heavier if its level is not. -/
theorem weight_closed
    (inside : Pass format settings (level.below head siblings) [] inner log below inner')
    (lighter : below.weight inner' ≤ (level.below head siblings).weight inner)
    (other : head.tag ∉ Media.tags) (outer : Option String) (tail : String) :
    (below.close inner' tail).weight level.head.tag outer ≤
      (Node.element head inner tail).weight level.head.tag outer := by
  have start : (level.below head siblings).weight inner =
      captionRoom head.tag inner + Node.weights head.tag (some level.head.tag) inner := by
    simp [Level.weight, Level.below, Level.around]
  rw [inside.weight_close other, Node.weight_of_other other]
  omega

/-- An open element gets no heavier by an element that was walked in it. -/
theorem weight_leave
    (inside : Pass format settings (level.below head (before ++ todo)) [] inner log below inner')
    (lighter : below.weight inner' ≤ (level.below head (before ++ todo)).weight inner)
    (other : head.tag ∉ Media.tags) (tail : String) :
    level.weight (captionFront settings below.caption ++ before ++ [below.close inner' tail] ++
        (todo ++ captionBack settings below.caption)) ≤
      level.weight (before ++ .element head inner tail :: todo) :=
  Level.weight_step settings rfl (inside.gains other tail) (inside.hasTag_closed tail)
    (Nat.add_le_add_left (inside.weight_closed lighter other level.around tail) _)
    fun _ => Nat.le_refl _

/-- **A pass makes no document heavier.** -/
theorem weight_le (pass : Pass format settings level before todo log last children) :
    last.weight children ≤ level.weight (before ++ todo) := by
  induction pass with
  | done => exact Nat.le_of_eq (by rw [List.append_nil])
  | skip _ _ ih => simpa using ih
  | @visit level last before todo children inner head tail change log media handled rest ih =>
    have slot := handled.isFigcaption_slot media tail
    have old := Node.isFigcaption_media media inner tail
    refine Nat.le_trans ih (Level.weight_step settings (by simp [Level.linked]) handled.gains
      (slot.trans old.symm) ?_ handled.weights_visited)
    have lighter := handled.weight_slot media tail
    have links : ((level.caught change.figcaption).linked change.parentLink).link.toList.length ≤
        change.parentLink.toList.length + level.link.toList.length := by
      rw [Level.linked, Level.caught_link]
      cases change.parentLink <;> simp
    omega
  | @enter level last below before todo children inner inner' head tail log log' other inside kept
      rest innerIh ih =>
    have step := inside.weight_leave innerIh other tail
    rw [kept, List.nil_append] at step
    exact Nat.le_trans ih step
  | @again level last below before todo children inner inner' head tail caption log log' other
      inside moved rest innerIh ih =>
    have step := inside.weight_leave innerIh other tail
    rw [moved, captionBack_moved moved, List.append_nil] at step
    have shape : [caption] ++ before ++ [below.close inner' tail] ++ todo =
        caption :: before ++ below.close inner' tail :: todo := by simp
    exact Nat.le_trans ih (shape ▸ step)

end Pass

/-! ## Loads -/

section

variable {format : Format} {settings : Settings} {level below : Level}
  {before todo inner inner' : List Node} {head : Head} {tail : String}

theorem Level.load_skip {node : Node} (noElement : node.isElement = false)
    (before todo : List Node) :
    level.load (before ++ [node]) todo < level.load before (node :: todo) := by
  simp only [load, Node.weights, Node.weight_of_noElement noElement, List.append_assoc,
    List.singleton_append]
  omega

theorem Change.Handled.load_visit {change : Change}
    (handled : Handled format settings (level.site (before ++ .element head inner tail :: todo))
      head inner change)
    (media : head.tag ∈ Media.tags) :
    ((level.caught change.figcaption).linked change.parentLink).load
        (captionFront settings (level.own change.figcaption) ++ before ++
          [change.slot.withTail tail])
        (todo ++ captionBack settings (level.own change.figcaption)) <
      level.load before (.element head inner tail :: todo) := by
  have slot := handled.isFigcaption_slot media tail
  have old := Node.isFigcaption_media media inner tail
  exact Level.load_step settings (by simp [Level.linked]) handled.gains (slot.trans old.symm)
    handled.weights_visited

theorem Level.load_enter (other : head.tag ∉ Media.tags) (siblings : List Node) :
    (level.below head siblings).load [] inner <
      level.load before (.element head inner tail :: todo) := by
  simp only [load, below, around, List.nil_append, Node.weights, Node.weight_of_other other]
  omega

theorem Pass.load_leave {log : List Head}
    (inside : Pass format settings (level.below head (before ++ todo)) [] inner log below inner')
    (other : head.tag ∉ Media.tags) (tail : String) :
    level.load (captionFront settings below.caption ++ before ++ [below.close inner' tail])
        (todo ++ captionBack settings below.caption) <
      level.load before (.element head inner tail :: todo) :=
  Level.load_step settings rfl (inside.gains other tail) (inside.hasTag_closed tail)
    fun _ => Nat.le_refl _

/-- An element that is met again is no load on the level any more than it was, but for the
figcaption that came to the level. -/
theorem Pass.load_again {log : List Head} {caption : Node}
    (inside : Pass format settings (level.below head (before ++ todo)) [] inner log below inner')
    (moved : captionFront settings below.caption = [caption]) (other : head.tag ∉ Media.tags)
    (tail : String) :
    level.load (caption :: before) (below.close inner' tail :: todo) <
      level.load before (.element head inner tail :: todo) := by
  have lighter := inside.weight_closed inside.weight_le other level.around tail
  have room := (inside.gains other tail).captionRoom_le settings
    (hasFigcaption_replace (inside.hasTag_closed tail) before todo)
  have shape : [caption] ++ (before ++ [below.close inner' tail]) ++ todo =
      caption :: before ++ below.close inner' tail :: todo := by simp
  rw [moved, captionBack_moved moved, (captionFront_moved moved).2, List.append_nil, shape,
    Option.toList_some, List.length_singleton] at room
  simp only [Level.load, Node.weights]
  omega

end

/-! ## Sizes -/

/-- A node weighs no more than four nodes. -/
theorem Node.weights_le (parent : String) (outer : Option String) (nodes : List Node) :
    weights parent outer nodes ≤ 4 * sizes nodes := by
  induction nodes using Node.inductionOnAll generalizing parent outer with
  | nil => simp [weights]
  | element head children tail rest childrenIh ih =>
    have behind := ih parent outer
    have inside := childrenIh head.tag (some parent)
    rw [weights, sizes, size]
    by_cases media : head.tag ∈ Media.tags
    · rw [weight_of_media media, Surroundings.room]
      split <;> split <;> omega
    · rw [weight_of_other media, captionRoom]
      split <;> omega
  | comment text tail rest ih =>
    have behind := ih parent outer
    rw [weights, weight_of_noElement rfl, sizes, size]
    · omega
    · simp
  | instruction text tail rest ih =>
    have behind := ih parent outer
    rw [weights, weight_of_noElement rfl, sizes, size]
    · omega
    · simp

end MediaMarkup
