import MediaMarkup.Proofs.Media
import MediaMarkup.Proofs.Search

/-!
A pass inside a link. A media element sees the link that it stands in only from a child of that
link, or from a child of a figure that is one. Where no media element of a link lies deeper
(`Node.TidyIn`), a pass adds no link in it and keeps it so (`Pass.insideLink`).
-/

namespace MediaMarkup

namespace Search

/-- The search for a media element. -/
def media : Search := fun head _ =>
  if head.tag ∈ Media.tags then some true else none

end Search

namespace Node

/-- Whether a media element lies below the node. -/
def hidesMedia (node : Node) : Bool :=
  findsAny .media node.children

/-- Whether a child of a link has a media element in it that does not see the link. -/
def straysIn (tag : String) (node : Node) : Bool :=
  if tag = "a" ∧ node.hasTag "figure" = true then node.children.any hidesMedia
  else node.hidesMedia

/-- A child of a link, or of a figure in one: there is no other link in it, and its media elements
see the link that is there. -/
structure TidyIn (tag : String) (node : Node) : Prop where
  unlinked : node.containsTag "a" = false
  near : node.straysIn tag = false

variable {head : Head} {children : List Node} {tail : String}

theorem finds_media (media : head.tag ∈ Media.tags) :
    finds .media (.element head children tail) = true :=
  finds_of_some (if_pos media)

theorem finds_media_of_other (other : head.tag ∉ Media.tags) :
    finds .media (.element head children tail) = findsAny .media children :=
  finds_of_none (if_neg other)

theorem mediaAll_of_quiet {nodes : List Node} (quiet : findsAny .media nodes = false) :
    mediaAll nodes = [] := by
  induction nodes using Node.inductionOnAll with
  | nil => exact mediaAll_nil
  | element head children tail rest inner ih =>
    rw [findsAny_cons, Bool.or_eq_false_iff] at quiet
    have other : head.tag ∉ Media.tags := by
      intro media
      rw [finds_media media] at quiet
      cases quiet.1
    rw [finds_media_of_other other] at quiet
    rw [mediaAll_cons, media_of_other other, inner quiet.1, ih quiet.2, List.append_nil]
  | comment text tail rest ih =>
    rw [findsAny_cons, Bool.or_eq_false_iff] at quiet
    rw [mediaAll_cons, media_of_noElement rfl, ih quiet.2, List.append_nil]
  | instruction text tail rest ih =>
    rw [findsAny_cons, Bool.or_eq_false_iff] at quiet
    rw [mediaAll_cons, media_of_noElement rfl, ih quiet.2, List.append_nil]

theorem TidyIn.withTail {tag : String} {node : Node} (tidy : node.TidyIn tag) (tail : String) :
    (node.withTail tail).TidyIn tag := by
  obtain ⟨unlinked, near⟩ := tidy
  refine ⟨?_, ?_⟩
  · rw [containsTag, finds_withTail]
    exact unlinked
  · cases node <;> exact near

theorem tidyIn_figcaption (tag text : String) : (figcaption text).TidyIn tag := by
  refine ⟨?_, ?_⟩
  · simp [figcaption, containsTag_element, Head.new]
  · simp [figcaption, straysIn, hidesMedia, children, hasTag, tag?, head?, Head.new]

/-- A media element in a link is tidy if nothing in it is a link or a media element. -/
theorem tidyIn_media (media : head.tag ∈ Media.tags) (tag : String) :
    (Node.element head children tail).TidyIn tag ↔
      findsAny (.tagged "a") children = false ∧ findsAny .media children = false := by
  have noLink : head.tag ≠ "a" := by
    rintro same
    rw [same] at media
    revert media
    decide
  have noFigure : head.tag ≠ "figure" := by
    rintro same
    rw [same] at media
    revert media
    decide
  have unlinked_eq : (Node.element head children tail).containsTag "a" =
      findsAny (.tagged "a") children := by
    simp [containsTag_element, noLink]
  have near_eq : (Node.element head children tail).straysIn tag = findsAny .media children := by
    simp [straysIn, hidesMedia, Node.children, hasTag, tag?, head?, noFigure]
  constructor
  · rintro ⟨unlinked, near⟩
    exact ⟨unlinked_eq ▸ unlinked, near_eq ▸ near⟩
  · rintro ⟨unlinked, near⟩
    exact ⟨unlinked_eq.trans unlinked, near_eq.trans near⟩

/-- A new figure around a media element keeps it next to the link. -/
theorem TidyIn.attach_figureShell {node : Node} (tidy : node.TidyIn "figure") (settings : Settings)
    (caption : Option String) : ((figureShell settings caption).attach node).TidyIn "a" := by
  have isShell := figureShell_isShell settings caption
  have isFigure := figureShell_tag settings caption
  have near : node.hidesMedia = false := by simpa [straysIn] using tidy.near
  have empty : ∀ node ∈ (figureShell settings caption).before ++
      (figureShell settings caption).after, node.hidesMedia = false := by
    intro node h
    obtain ⟨text, rfl⟩ := isShell.figcaptions node h
    exact findsAny_nil
  refine ⟨?_, ?_⟩
  · rw [isShell.containsTag_attach (by decide), isFigure, tidy.unlinked]
    decide
  · rw [straysIn, if_pos ⟨rfl, by simp [Frame.attach, hasTag, tag?, head?, isFigure]⟩,
      List.any_eq_false]
    intro child mem
    rw [Bool.not_eq_true]
    simp only [Frame.attach, Node.children, List.mem_append, List.mem_cons] at mem
    rcases mem with mem | rfl | mem
    · exact empty child (List.mem_append_left _ mem)
    · exact near
    · exact empty child (List.mem_append_right _ mem)

end Node

theorem Surroundings.insideLink_ofTags {tag : String} {outer : Option String} :
    (ofTags [some tag, outer]).insideLink = true ↔
      tag = "a" ∨ tag = "figure" ∧ outer = some "a" := by
  simp only [ofTags, List.getElem?_cons_zero, List.getElem?_cons_succ, Option.join_some]
  split
  · split <;> simp_all [insideLink, link?]
  · split
    · split <;> simp_all [insideLink, link?]
    · simp_all [insideLink, link?]

theorem Surroundings.insideFigure_ofTags (outer : Option String) :
    (ofTags [some "figure", outer]).insideFigure = true := by
  rw [insideFigure, figure?_ofTags]
  rfl

/-- What stands in the slot of a media element in a link is tidy again. -/
theorem Change.Handled.tidyIn_slot {settings : Settings} {level : Level} {nodes inner : List Node}
    {head : Head} {tail : String} {change : Change}
    (handled : Handled .data settings (level.site nodes) head inner change)
    (media : head.tag ∈ Media.tags) (inLink : level.surroundings.insideLink = true)
    (tidy : (Node.element head inner tail).TidyIn level.head.tag) :
    (change.slot.withTail tail).TidyIn level.head.tag := by
  apply Node.TidyIn.withTail
  obtain ⟨unlinked, near⟩ := (Node.tidyIn_media media _).mp tidy
  obtain ⟨head', children', media_eq, -, children_eq⟩ := handled.media_children
  have left (tag : String) : change.media.TidyIn tag := by
    rw [media_eq]
    split at children_eq
    · obtain ⟨media', source, mime, rfl⟩ := children_eq
      refine (Node.tidyIn_media media' tag).mpr ⟨?_, ?_⟩
      · simp [sourceElement, Node.finds_element, Search.tagged, Head.new]
      · simp [sourceElement, Node.finds_element, Search.media, Head.new, Media.tags, Kind.tag]
    · obtain ⟨same, rfl⟩ := children_eq
      exact (Node.tidyIn_media (same ▸ media) tag).mpr ⟨unlinked, near⟩
  rw [slot]
  rcases handled.shells_of_insideLink inLink with none | ⟨noFigure, caption, some⟩
  · rw [none]
    exact left _
  · have isLink : level.head.tag = "a" := by
      rcases Surroundings.insideLink_ofTags.mp inLink with isLink | ⟨isFigure, -⟩
      · exact isLink
      · have inFigure := Surroundings.insideFigure_ofTags level.around
        simp only [Level.site, Level.surroundings, isFigure, inFigure] at noFigure
        cases noFigure
    rw [some, isLink]
    exact (left "figure").attach_figureShell settings caption

/-- The level of a figure in a link is in that link too. -/
theorem Level.insideLink_below {level : Level} {head : Head} {siblings : List Node}
    (isLink : level.head.tag = "a") (isFigure : head.tag = "figure") :
    (level.below head siblings).surroundings.insideLink = true :=
  Surroundings.insideLink_ofTags.mpr (.inr ⟨isFigure, congrArg some isLink⟩)

/-- An element in a link that is closed again is tidy, if a pass below it keeps its children so. -/
theorem Pass.tidyIn_close {settings : Settings} {level below : Level} {siblings inner inner' :
      List Node} {head : Head} {tail : String} {log : List Head}
    (inside : Pass .data settings (level.below head siblings) [] inner log below inner')
    (innerIh : (level.below head siblings).surroundings.insideLink = true →
      (∀ node ∈ [] ++ inner, node.TidyIn (level.below head siblings).head.tag) →
        (∀ node ∈ inner', node.TidyIn (level.below head siblings).head.tag) ∧
          below.link = (level.below head siblings).link)
    (tidy : (Node.element head inner tail).TidyIn level.head.tag) :
    (below.close inner' tail).TidyIn level.head.tag := by
  have below_head := inside.head_below
  obtain ⟨unlinked, near⟩ := tidy
  by_cases inFigure : level.head.tag = "a" ∧ head.tag = "figure"
  · obtain ⟨isLink, isFigure⟩ := inFigure
    rw [Node.containsTag_element, Bool.or_eq_false_iff, Node.findsAny_eq_false] at unlinked
    rw [Node.straysIn, if_pos ⟨isLink, by simp [Node.hasTag, Node.tag?, Node.head?, isFigure]⟩,
      List.any_eq_false] at near
    have innerTidy : ∀ node ∈ inner, node.TidyIn "figure" := by
      intro node mem
      refine ⟨unlinked.2 node mem, ?_⟩
      simpa [Node.straysIn] using near node mem
    have below_tag : (level.below head siblings).head.tag = "figure" := isFigure
    rw [below_tag] at innerIh
    obtain ⟨kept, link_eq⟩ := innerIh (Level.insideLink_below isLink isFigure) innerTidy
    have noLink : below.link = none := link_eq
    rw [Level.close, noLink, below_head]
    refine ⟨?_, ?_⟩
    · rw [Node.containsTag_element, Bool.or_eq_false_iff, Node.findsAny_eq_false]
      exact ⟨unlinked.1, fun node mem => (kept node mem).unlinked⟩
    · rw [Node.straysIn, if_pos ⟨isLink, by simp [Node.hasTag, Node.tag?, Node.head?, isFigure]⟩,
        List.any_eq_false]
      intro node mem
      simpa [Node.straysIn] using (kept node mem).near
  · have isNoFigure : ¬(level.head.tag = "a" ∧
        (Node.element head inner tail).hasTag "figure" = true) := by
      simpa [Node.hasTag, Node.tag?, Node.head?] using inFigure
    have quiet : Node.findsAny .media inner = false := by
      rw [Node.straysIn, if_neg isNoFigure] at near
      exact near
    obtain ⟨rfl, rfl⟩ := inside.eq_of_noMedia (Node.mediaAll_of_quiet quiet)
    exact ⟨unlinked, near⟩

/-- Inside a link, a pass adds no link and keeps the children tidy. -/
theorem Pass.insideLink {settings : Settings} {level last : Level}
    {before todo children : List Node} {log : List Head}
    (pass : Pass .data settings level before todo log last children)
    (inLink : level.surroundings.insideLink = true)
    (tidy : ∀ node ∈ before ++ todo, node.TidyIn level.head.tag) :
    (∀ node ∈ children, node.TidyIn level.head.tag) ∧ last.link = level.link := by
  induction pass with
  | done => exact ⟨by simpa using tidy, rfl⟩
  | skip noElement rest ih => exact ih inLink (by simpa using tidy)
  | @visit level last before todo children inner head tail change log media handled rest ih =>
    have own := level.own_figcaption handled
    have noParentLink : change.parentLink = none := by
      have linked := handled.isSome_parentLink
      have noFigure : level.surroundings ≠ .figure := by
        intro figure
        rw [figure] at inLink
        cases inLink
      simpa [Level.site, noFigure] using linked
    have slot := handled.tidyIn_slot media inLink (tidy (.element head inner tail) (by simp))
    rw [noParentLink] at ih rest
    have linked_eq : (level.caught change.figcaption).linked none =
        level.caught change.figcaption := rfl
    rw [linked_eq, Level.surroundings_caught, Level.caught_head, Level.caught_link] at ih
    refine ih inLink ?_
    simp only [List.mem_append, List.mem_singleton]
    rintro node (((mem | mem) | rfl) | mem | mem)
    · obtain ⟨text, rfl⟩ := own node (mem_captionFront mem)
      exact Node.tidyIn_figcaption _ text
    · exact tidy node (by simp [mem])
    · exact slot
    · exact tidy node (by simp [mem])
    · obtain ⟨text, rfl⟩ := own node (mem_captionBack mem)
      exact Node.tidyIn_figcaption _ text
  | @enter level last below before todo children inner inner' head tail log log' other inside kept
      rest innerIh ih =>
    have regular := inside.regular_below
    have closed := inside.tidyIn_close innerIh (tidy (.element head inner tail) (by simp))
    refine ih inLink ?_
    simp only [List.mem_append, List.mem_singleton]
    rintro node ((mem | rfl) | mem | mem)
    · exact tidy node (by simp [mem])
    · exact closed
    · exact tidy node (by simp [mem])
    · obtain ⟨text, rfl⟩ := regular.caption node (mem_captionBack mem)
      exact Node.tidyIn_figcaption _ text
  | @again level last below before todo children inner inner' head tail caption log log' other
      inside moved rest innerIh ih =>
    have regular := inside.regular_below
    have closed := inside.tidyIn_close innerIh (tidy (.element head inner tail) (by simp))
    refine ih inLink ?_
    simp only [List.mem_append, List.mem_cons]
    rintro node ((rfl | mem) | rfl | mem)
    · obtain ⟨text, rfl⟩ :=
        regular.caption node (mem_captionFront (moved ▸ List.mem_singleton_self _))
      exact Node.tidyIn_figcaption _ text
    · exact tidy node (by simp [mem])
    · exact closed
    · exact tidy node (by simp [mem])

end MediaMarkup
