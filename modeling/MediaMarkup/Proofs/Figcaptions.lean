import MediaMarkup.Proofs.Cut
import MediaMarkup.Proofs.Figures

/-!
The figcaptions of a whole document. Main statement: a figure that has figcaptions keeps just these,
and another one gets the figcaption that its first asking child offers and no second one
(`figcaptionsOnce`). Where a link is walked again, a figure in it can get a figcaption that only a
title asked for, in the first walk (`not_figcaptionsOnce_lateCaption`).
-/

namespace MediaMarkup

/-! ## Unravelling -/

namespace Node

theorem blind_figuresAll (inMedia : Bool) :
    Paragraph.Blind (· ++ ·) (figuresAll inMedia) where
  append := figuresAll_append
  withTail tail node := by simp
  paragraph {head} isParagraph children tail := by
    have other : head.tag ∉ Media.tags := by
      rw [isParagraph]
      decide
    have noFigure : head.tag ≠ "figure" := by
      rw [isParagraph]
      decide
    rw [figuresAll_cons, figures_of_other other, ownFigure, if_neg noFigure, figuresAll_nil,
      List.append_nil, List.nil_append]

/-- Unravelling keeps the figures in their order. -/
theorem figures_unravelAll (inMedia : Bool) (nodes : List Node) :
    List.Forall₂ Unravelled (figuresAll inMedia nodes) (figuresAll inMedia (unravelAll nodes)) := by
  refine forall₂_unravelAll (blind_figuresAll inMedia) (fun _ => ⟨rfl, .inl rfl⟩) ?_ nodes
  intro head children tail inner
  rw [figuresAll_cons, figuresAll_cons, figuresAll_nil, List.append_nil, List.append_nil]
  unfold figures
  split
  · exact .nil
  · refine List.rel_append ?_ inner
    unfold ownFigure
    split
    · exact .cons ⟨rfl, .inr rfl⟩ .nil
    · exact .nil

theorem pieceTest_isFigcaption : Paragraph.PieceTest (hasTag "figcaption") where
  withTail tail node := by cases node <;> rfl
  paragraph isParagraph children tail := by simp [hasTag, tag?, head?, isParagraph]

/-- A paragraph has no figcaption among its pieces. -/
theorem figcaptions_pieces {node : Node} (needs : node.needsUnravelling = true) :
    figcaptions (Paragraph.onLines node.tail (Paragraph.split node)) = [] := by
  obtain ⟨head, children, tail, rfl, -⟩ := isParagraph_of_needsUnravelling needs
  rw [← hasFigcaption_eq_false, hasFigcaption, Node.tail, pieceTest_isFigcaption.any_pieces,
    List.any_eq_false]
  rintro child -
  cases child with
  | element head children tail =>
    by_cases isCaption : head.tag = "figcaption"
    · simp [isBlockMedia, isBlock, blockTags, hasTag, tag?, head?, isCaption]
    · simp [hasTag, tag?, head?, isCaption]
  | comment => simp [hasTag, tag?, head?]
  | instruction => simp [hasTag, tag?, head?]

/-- A paragraph that is cut is no figcaption, and gives none. -/
theorem figcaptions_unravelAll (nodes : List Node) :
    figcaptions (unravelAll nodes) = (figcaptions nodes).map unravel := by
  induction nodes with
  | nil => rw [unravelAll]; rfl
  | cons node rest ih =>
    rw [unravelAll, figcaptions_cons node]
    split
    · rename_i needs
      obtain ⟨head, children, tail, rfl, isParagraph⟩ := isParagraph_of_needsUnravelling needs
      have none := pieceTest_isFigcaption.paragraph isParagraph children tail
      rw [figcaptions_append, figcaptions_pieces needs, figcaptions_of_ne none, ih]
      rfl
    · have same : node.unravel.hasTag "figcaption" = node.hasTag "figcaption" := by
        cases node with
        | element => rw [unravel]; rfl
        | comment => rfl
        | instruction => rfl
      rw [figcaptions_cons, ih, List.map_append]
      cases isCaption : node.hasTag "figcaption" with
      | true =>
        rw [figcaptions_of_tag isCaption, figcaptions_of_tag (same.trans isCaption)]
        rfl
      | false =>
        rw [figcaptions_of_ne isCaption, figcaptions_of_ne (same.trans isCaption)]
        rfl

end Node

/-! ## Whole documents -/

/-- A figure before and after its document was unravelled. -/
structure Unfolded (settings : Settings) (old new : Head × List Node) : Prop where
  head : new.1 = old.1
  figcaptions : Node.figcaptions new.2 = Node.figcaptions old.2 ∨
    Node.figcaptions new.2 = (Node.figcaptions old.2).map (Node.unravelIf settings)

/-- A figcaption before and after a pass: it was walked, and its paragraphs were unravelled. -/
def KeptInPass (settings : Settings) (old new : Node) : Prop :=
  ∃ walked, KeptCaption old walked ∧ (new = walked ∨ new = walked.unravelIf settings)

/-- A media element before and after a pass: the figures in it stay as they are, unless it became a
player. -/
def InsideKept (settings : Settings) (old new : Head × List Node) : Prop :=
  (∃ source mime, new.2 = [sourceElement source mime]) ∨
    List.Forall₂ (Unfolded settings) (Node.figuresAll true old.2) (Node.figuresAll true new.2)

/-- What a pass makes of the figures of a document: those that were there are recaptioned, where
`late` tells which of them may get a figcaption that was not offered before; those that are new have
one figcaption at most; and the figures in media elements are left alone. -/
structure FigcaptionsOnce (settings : Settings) (late : Head × List Node → Prop) (tree : Node) :
    Prop where
  disabled : settings.enable = false → (tree.enrich settings).tree = tree
  figures : settings.enable = true →
    Grown (fun old new => Recaptioned (KeptInPass settings) (late old) old new) NewFigure
      tree.walkedFigures (tree.enrich settings).tree.walkedFigures
  inMedia : settings.enable = true → List.Forall₂ (InsideKept settings)
    (Node.mediaAll tree.children) (Node.mediaAll (tree.enrich settings).tree.children)

namespace Unfolded

variable {settings : Settings} {old new : Head × List Node}

theorem refl (settings : Settings) (figure : Head × List Node) : Unfolded settings figure figure :=
  ⟨rfl, .inl rfl⟩

theorem of_unravelled (unravels : settings.unravelParagraphs = true)
    (unravelled : Unravelled old new) : Unfolded settings old new := by
  obtain ⟨head_eq, same | unravelled⟩ := unravelled
  · exact ⟨head_eq, .inl (by rw [same])⟩
  · have unravel_eq : Node.unravelIf settings = Node.unravel := by
      funext node
      rw [Node.unravelIf, if_pos unravels]
    exact ⟨head_eq, .inr (by rw [unravelled, Node.figcaptions_unravelAll, unravel_eq])⟩

theorem figcaption_of_new (unfolded : Unfolded settings old new) {text : String}
    (isNew : Node.figcaptions old.2 = [figcaption text]) :
    Node.figcaptions new.2 = [figcaption text] := by
  have same : (figcaption text).unravelIf settings = figcaption text := by
    unfold Node.unravelIf
    split
    · rw [figcaption, Node.unravel, Node.unravelAll]
    · rfl
  rcases unfolded.figcaptions with eq | eq
  · rw [eq, isNew]
  · rw [eq, isNew, List.map_singleton, same]

theorem uncaptioned (unfolded : Unfolded settings old new)
    (none : Node.figcaptions old.2 = []) : Node.figcaptions new.2 = [] := by
  rcases unfolded.figcaptions with eq | eq
  · rw [eq, none]
  · rw [eq, none, List.map_nil]

end Unfolded

theorem Recaptioned.unfolded {settings : Settings} {late : Prop} {old mid new : Head × List Node}
    (changed : Recaptioned KeptCaption late old mid) (unfolded : Unfolded settings mid new) :
    Recaptioned (KeptInPass settings) late old new where
  head := unfolded.head.trans changed.head
  kept captioned := by
    have kept := changed.kept captioned
    rcases unfolded.figcaptions with eq | eq
    · rw [eq]
      exact kept.imp fun _ walked related => ⟨walked, related, .inl rfl⟩
    · rw [eq, List.forall₂_map_right_iff]
      exact kept.imp fun _ walked related => ⟨walked, related, .inr rfl⟩
  given uncaptioned text offered :=
    unfolded.figcaption_of_new (changed.given uncaptioned text offered)
  unasked uncaptioned unoffered := by
    rcases changed.unasked uncaptioned unoffered with none | ⟨late, text, given⟩
    · exact .inl (unfolded.uncaptioned none)
    · exact .inr ⟨late, text, unfolded.figcaption_of_new given⟩

theorem NewFigure.unfolded {settings : Settings} {old new : Head × List Node}
    (isNew : NewFigure old) (unfolded : Unfolded settings old new) : NewFigure new := by
  obtain ⟨head_eq, caption, figcaptions_eq⟩ := isNew
  refine ⟨unfolded.head.trans head_eq, caption, ?_⟩
  cases caption with
  | none => exact unfolded.uncaptioned figcaptions_eq
  | some text => exact unfolded.figcaption_of_new figcaptions_eq

namespace Node

theorem walkedFigures_unravelIf (settings : Settings) (tree : Node) :
    List.Forall₂ (Unfolded settings) tree.walkedFigures
      (tree.unravelIf settings).walkedFigures := by
  have same (figures : List (Head × List Node)) :
      List.Forall₂ (Unfolded settings) figures figures :=
    List.forall₂_same.mpr fun figure _ => .refl settings figure
  unfold unravelIf
  split
  · rename_i unravels
    cases tree with
    | element head children tail =>
      rw [unravel, walkedFigures, walkedFigures]
      refine List.rel_append ?_ ((figures_unravelAll false children).imp fun _ _ =>
        .of_unravelled unravels)
      unfold ownFigure
      split
      · exact .cons (.of_unravelled unravels ⟨rfl, .inr rfl⟩) .nil
      · exact .nil
    | comment => exact .nil
    | instruction => exact .nil
  · exact same _

end Node

/-- Handling a media element leaves what is in it as it is, or puts a source in its place. -/
theorem Visited.children_eq {settings : Settings} {old new : Head × List Node}
    (visited : Relation.TransGen (Visited settings) old new) :
    new.2 = old.2 ∨ ∃ source mime, new.2 = [sourceElement source mime] := by
  have once {old new : Head × List Node} (visited : Visited settings old new) :
      new.2 = old.2 ∨ ∃ source mime, new.2 = [sourceElement source mime] := by
    obtain ⟨site, change, handled, media_eq⟩ := visited
    obtain ⟨head', children', media_eq', -, children_eq⟩ := handled.media_children
    rw [media_eq', Node.element.injEq] at media_eq
    obtain ⟨-, rfl, -⟩ := media_eq
    split at children_eq
    · exact .inr children_eq.2
    · exact .inl children_eq.2
  induction visited with
  | single visited => exact once visited
  | tail _ visited ih =>
    rcases once visited with same | player
    · rw [same]
      exact ih
    · exact .inr player

theorem InsideKept.of_visited {settings : Settings} {tree : Node} {media : List (Head × List Node)}
    (visited : List.Forall₂ (Relation.TransGen (Visited settings)) media
      (Node.mediaAll tree.children)) :
    List.Forall₂ (InsideKept settings) media
      (Node.mediaAll (tree.unravelIf settings).children) := by
  have same (figures : List (Head × List Node)) :
      List.Forall₂ (Unfolded settings) figures figures :=
    List.forall₂_same.mpr fun figure _ => .refl settings figure
  cases unravels : settings.unravelParagraphs with
  | false =>
    rw [Node.unravelIf, unravels, if_neg (by decide)]
    refine visited.imp fun old new visited => ?_
    rcases Visited.children_eq visited with kept | player
    · exact .inr (kept ▸ same _)
    · exact .inl player
  | true =>
    refine (forall₂_comp visited (Node.media_unravelIf settings tree)).imp ?_
    rintro old new ⟨mid, visited, -, unravelled⟩
    rcases Visited.children_eq visited with kept | ⟨source, mime, player⟩
    · refine .inr ?_
      rcases unravelled with whole | unravelled
      · rw [whole, kept]
        exact same _
      · rw [unravelled, kept]
        exact (Node.figures_unravelAll true old.2).imp fun _ _ => .of_unravelled unravels
    · refine .inl ⟨source, mime, ?_⟩
      rcases unravelled with whole | unravelled
      · rw [whole, player]
      · rw [unravelled, player]
        rfl

/-- A pass over a document keeps its figures, the root included. -/
theorem Pass.grown_walkedFigures {settings : Settings} {head : Head}
    {children children' : List Node} {log : List Head} {last : Level} (tail : String)
    (pass : Pass .data settings (.root head) [] children log last children') :
    Grown (Refigured settings ((Node.element head children tail).rewalks settings = true)) NewFigure
      (Node.element head children tail).walkedFigures
      (Node.element head children' tail).walkedFigures := by
  obtain ⟨figures, eq, grown⟩ := pass.grown id
  rw [Node.figuresAll_nil, List.nil_append] at eq
  rw [← eq] at grown
  refine .append ?_ grown
  unfold Node.ownFigure
  split
  · rename_i isFigure
    exact .kept (pass.refigured isFigure) .nil
  · exact .nil

theorem FigcaptionsOnce.of_noElement {settings : Settings} {late : Head × List Node → Prop}
    {tree : Node} (enabled : settings.enable = true) (noElement : tree.isElement = false)
    (noFigures : tree.walkedFigures = []) (noChildren : tree.children = []) :
    FigcaptionsOnce settings late tree := by
  refine ⟨by simp [enabled], fun _ => ?_, fun _ => ?_⟩
  · rw [Node.enrich_of_noElement noElement, noFigures]
    exact .nil
  · rw [Node.enrich_of_noElement noElement, noChildren, Node.mediaAll_nil]
    exact .nil

/-- **Figcaptions are unique.** A figure that has figcaptions keeps them; another one gets at most
one, with the text that the first of its media elements in document order asks for, itself or from
inside a link in the figure; and a new figure has one at most. Only where a link is walked again, a
figure without an offer may get a figcaption all the same, if a title has a directive about an alt
text or a title in it. -/
theorem figcaptionsOnce (settings : Settings) (tree : Node)
    (finished : (tree.enrich settings).failure = none) :
    FigcaptionsOnce settings (fun figure => tree.rewalks settings = true ∧
      ∃ media ∈ Node.mediaAll figure.2, ¬media.1.KeepsAlt) tree := by
  cases enabled : settings.enable with
  | false =>
    refine ⟨fun _ => by rw [Node.enrich_of_disabled enabled], ?_, ?_⟩
    · rw [enabled]
      rintro ⟨⟩
    · rw [enabled]
      rintro ⟨⟩
  | true =>
    cases tree with
    | comment => exact .of_noElement enabled rfl rfl rfl
    | instruction => exact .of_noElement enabled rfl rfl rfl
    | element head children tail =>
      obtain ⟨last, children', pass, tree_eq⟩ := Node.enrich_pass enabled finished
      refine ⟨by simp [enabled], fun _ => ?_, fun _ => ?_⟩
      · rw [tree_eq]
        refine ((pass.grown_walkedFigures tail).comp_forall₂
          (Node.walkedFigures_unravelIf settings _) fun _ _ => NewFigure.unfolded).imp ?_
        rintro old new ⟨mid, changed, unfolded⟩
        exact changed.captions.unfolded unfolded
      · rw [tree_eq]
        obtain ⟨media, eq, visited⟩ := pass.media_eq
        rw [Node.mediaAll_nil, List.nil_append] at eq
        rw [← eq] at visited
        exact InsideKept.of_visited visited

/-- Two images in a figure, the second in a link, that both ask for its caption. -/
def rivals : Node :=
  .around "div" [.around "figure" [.picture "x.png" "^first",
    .around "a" [.picture "y.png" "caption:second"]]]

theorem figcaptionsOnce_rivals :
    (rivals.enrich .default).failure = none ∧
      FigcaptionsOnce .default (fun figure => rivals.rewalks .default = true ∧
        ∃ media ∈ Node.mediaAll figure.2, ¬media.1.KeepsAlt) rivals := by
  have finished : (rivals.enrich .default).failure = none := by decide +kernel
  exact ⟨finished, figcaptionsOnce .default rivals finished⟩

/-- A linked image that asks for the caption of a figure, and behind it in the link another figure,
whose image gets a marked alt text from its title. -/
def lateCaption : Node :=
  let late : Head := .new "img" [("src", .text "y.png"), ("alt", .text ""),
    ("title", .text "> alt='^late'")] ""
  .around "div" [.around "figure" [
    .element (.new "a" [("href", .text "https://example.com")] "")
      [.picture "x.png" "^c", .around "figure" [.element late [] ""]] ""]]

/-- The caption above the link moves it, and the figure in it gets a figcaption that its image did
not ask for. -/
theorem not_figcaptionsOnce_lateCaption :
    (lateCaption.enrich captionsAbove).failure = none ∧
      ¬FigcaptionsOnce captionsAbove (fun _ => False) lateCaption := by
  refine ⟨by decide +kernel, fun once => ?_⟩
  have same : (lateCaption.enrich captionsAbove).tree.walkedFigures.length =
      lateCaption.walkedFigures.length := by decide +kernel
  have inner := ((once.figures rfl).forall₂_of_length same).get
    (show 1 < lateCaption.walkedFigures.length by decide +kernel)
    (show 1 < (lateCaption.enrich captionsAbove).tree.walkedFigures.length by decide +kernel)
  have one : (Node.figcaptions ((lateCaption.enrich captionsAbove).tree.walkedFigures.get
      ⟨1, by decide +kernel⟩).2).length = 1 := by decide +kernel
  rcases inner.unasked (List.length_eq_zero_iff.mp (by decide +kernel)) (by decide +kernel) with
    none | ⟨⟨⟩, -⟩
  rw [none] at one
  cases one

end MediaMarkup
