import MediaMarkup.Proofs.Failure
import MediaMarkup.Proofs.Wrapping

/-!
What one call of the visitor leaves of a document. The element's slot holds the element in its
wrapping; around the slot at most a figcaption and a link are new, in or around the figure that was
there. New elements are counted by `Node.countTag`, over the whole document.
-/

namespace MediaMarkup

/-! ## Counting elements -/

namespace Node

mutual

/-- How many elements of a tag are in a tree. -/
def countTag (tag : String) : Node → Nat
  | .element head children _ => [head.tag].count tag + countTags tag children
  | _ => 0

def countTags (tag : String) : List Node → Nat
  | [] => 0
  | node :: rest => countTag tag node + countTags tag rest

end

variable (tag : String)

theorem countTag_element (head : Head) (children : List Node) (tail : String) :
    countTag tag (.element head children tail) =
      [head.tag].count tag + countTags tag children := by
  rw [countTag]

theorem countTags_append (xs ys : List Node) :
    countTags tag (xs ++ ys) = countTags tag xs + countTags tag ys := by
  induction xs with
  | nil => simp [countTags]
  | cons node xs ih => simp [countTags, ih, Nat.add_assoc]

theorem countTags_cons (node : Node) (nodes : List Node) :
    countTags tag (node :: nodes) = countTag tag node + countTags tag nodes := by
  rw [countTags]

theorem countTag_withTail (text : String) (node : Node) :
    countTag tag (node.withTail text) = countTag tag node := by
  cases node <;> simp [withTail, countTag]

end Node

namespace Frame

/-- How many elements of a tag are in a frame, with itself. -/
def countTag (tag : String) (frame : Frame) : Nat :=
  [frame.head.tag].count tag + Node.countTags tag (frame.before ++ frame.after)

def countTags (tag : String) : List Frame → Nat
  | [] => 0
  | frame :: outer => countTag tag frame + countTags tag outer

theorem countTags_append (tag : String) (inner outer : List Frame) :
    countTags tag (inner ++ outer) = countTags tag inner + countTags tag outer := by
  induction inner with
  | nil => simp [countTags]
  | cons frame inner ih => simp [countTags, ih, Nat.add_assoc]

end Frame

namespace Node

variable (tag : String)

theorem countTag_attach (node : Node) (frame : Frame) :
    countTag tag (frame.attach node) = countTag tag node + frame.countTag tag := by
  simp only [Frame.attach, countTag_element, Frame.countTag, countTags_append, countTags_cons]
  omega

theorem countTag_within (node : Node) (frames : List Frame) :
    countTag tag (node.within frames) = countTag tag node + Frame.countTags tag frames := by
  induction frames generalizing node with
  | nil => rfl
  | cons frame frames ih =>
    have inner : countTag tag (node.within (frame :: frames)) =
        countTag tag ((frame.attach node).within frames) := rfl
    rw [inner, ih, countTag_attach, Frame.countTags, Nat.add_assoc]

end Node

/-! ## New elements -/

/-- The tag of a caption, if there is one. -/
def captionTags (caption : Option String) : List String :=
  if caption.isSome then ["figcaption"] else []

/-- The tags of the new elements. -/
def Wrapping.tags : Wrapping → List String
  | .bare => []
  | .figure caption => ["figure"] ++ captionTags caption
  | .link _ => ["a"]
  | .linkInFigure caption _ | .figureInLink caption _ => ["figure"] ++ captionTags caption ++ ["a"]

theorem countTags_captions (tag : String) (caption : Option String) :
    Node.countTags tag (caption.map figcaption).toList = (captionTags caption).count tag := by
  cases caption with
  | none => rfl
  | some text => simp [Node.countTags, Node.countTag, figcaption, Head.new, captionTags]

theorem countTag_figureAround (tag : String) (above : Bool) (caption : Option String)
    (node : Node) : Node.countTag tag (figureAround above caption node) =
      node.countTag tag + (["figure"] ++ captionTags caption).count tag := by
  rw [figureAround, Node.countTag_element, List.count_append, ← countTags_captions]
  have figure : (Head.new "figure" [] "").tag = "figure" := rfl
  cases above <;> simp only [Node.countTags_append, Node.countTags_cons, Node.countTags, figure,
    ↓reduceIte, Bool.false_eq_true] <;> omega

theorem countTag_linkAround (tag href : String) (node : Node) :
    Node.countTag tag (linkAround href node) = node.countTag tag + ["a"].count tag := by
  have link : (anchor href).tag = "a" := rfl
  simp only [linkAround, Node.countTag_element, Node.countTags, link]
  omega

theorem Wrapping.countTag_around (tag : String) (above : Bool) (media : Node)
    (wrapping : Wrapping) : Node.countTag tag (wrapping.around above media) =
      media.countTag tag + wrapping.tags.count tag := by
  cases wrapping <;>
    simp only [around, tags, countTag_figureAround, countTag_linkAround, List.count_append,
      List.count_nil] <;>
    omega

namespace Site

variable (head : Head) (site : Site)

/-- The figcaption for the figure around an element, if that is so far up. -/
def captionAt (up : Nat) : Option Node :=
  if site.surroundings.figure? = some up then (site.figureCaption? head).map figcaption else none

/-- The tags of all elements that a media element adds to its document. -/
def newTags : List String :=
  captionTags (site.figureCaption? head) ++ (site.wrapping head).tags ++
    if (site.figureLink? head).isSome then ["a"] else []

variable {head site}

/-- An element that is in no figure has no figure to change. -/
theorem figureCaption?_eq_none (free : site.surroundings.insideFigure = false) :
    site.figureCaption? head = none := by
  rw [figureCaption?, free]
  rfl

theorem figureLink?_eq_none (unlinked : site.linksFigure head = false) :
    site.figureLink? head = none := by
  rw [figureLink?, unlinked]
  rfl

/-- At most one figure, one figcaption and one link are new. -/
theorem newTags_sublist (head : Head) (site : Site) :
    (site.newTags head).Sublist ["figure", "figcaption", "a"] := by
  rw [newTags, wrapping]
  cases needs : site.needsFigure head with
  | true =>
    have free := free_of_needsFigure needs
    rw [figureCaption?_eq_none free, figureLink?_eq_none (linksFigure_eq_false free)]
    cases site.newLink? head with
    | none => cases head.captionAsked? <;> simp [Wrapping.tags, captionTags]
    | some href =>
      dsimp only
      split <;> cases head.captionAsked? <;> simp [Wrapping.tags, captionTags]
  | false =>
    cases link : site.newLink? head with
    | none =>
      cases site.figureCaption? head <;> cases site.figureLink? head <;>
        simp [Wrapping.tags, captionTags]
    | some href =>
      have unlinked : site.linksFigure head = false := by
        cases links : site.linksFigure head with
        | false => rfl
        | true => simp [newLink?, links] at link
      rw [figureLink?_eq_none unlinked]
      cases site.figureCaption? head <;> simp [Wrapping.tags, captionTags]

end Site

/-! ## One call of the visitor -/

namespace Place

/-- The site of a child of the open element, with the chain above it as its ancestors. -/
def site (tail : String) (place : Place) : Site :=
  Walk.site tail ⟨place, place.chain, []⟩

end Place

/-- What a call of the visitor for the child at `index`, with this head and these children and this
text behind it, makes of a place: `media` stands in its wrapping at `position`. -/
structure WrappedInSlot (settings : Settings) (place : Place) (index : Nat) (head : Head)
    (inner : List Node) (tail : String) (media : Node) (position : Nat) (next : Place) : Prop where
  becomes : head.Becomes inner media
  /-- The wrapping has the element's tail; nothing in it has one. -/
  slot : next.children[position]? =
    some ((((place.site tail).wrapping head).around settings.captionsAbove media).withTail tail)
  position_eq : position =
    (captionFront settings ((place.site tail).captionAt head 0)).length + index
  /-- The other children are those that were there, but for a figcaption at one end. -/
  siblings : next.children.eraseIdx position =
    captionFront settings ((place.site tail).captionAt head 0) ++ place.children.eraseIdx index ++
      captionBack settings ((place.site tail).captionAt head 0)
  parent : next.head = place.head
  /-- Around the parent, a link may be new, and a figcaption in the element around it. -/
  outer : next.outer =
    (((place.site tail).figureLink? head).map fun href =>
        Frame.mk (anchor href) [] [] place.tail).toList ++
      addCaption settings ((place.site tail).captionAt head 1) place.outer
  behind : next.tail = if ((place.site tail).figureLink? head).isSome then "" else place.tail
  atMostOne : ((place.site tail).newTags head).Sublist ["figure", "figcaption", "a"]
  /-- Nothing else is new in the document, compared with the element left bare. -/
  added : ∀ tag', next.root.countTag tag' =
    (place.setChild index (media.withTail tail)).root.countTag tag' +
      ((place.site tail).newTags head).count tag'

theorem countTags_captionSides (settings : Settings) (tag : String) (caption : Option Node) :
    Node.countTags tag (captionFront settings caption) +
      Node.countTags tag (captionBack settings caption) =
        Node.countTags tag caption.toList := by
  unfold captionFront captionBack
  cases settings.captionsAbove <;> simp [Node.countTags]

theorem countTag_addCaption (settings : Settings) (tag : String) (caption : Option Node)
    (frame : Frame) (outer : List Frame) :
    Frame.countTags tag (addCaption settings caption (frame :: outer)) =
      Node.countTags tag caption.toList + Frame.countTags tag (frame :: outer) := by
  have sides := countTags_captionSides settings tag caption
  simp only [addCaption, Frame.countTags, Frame.countTag, Node.countTags_append]
  omega

theorem Level.placeIn_eq (settings : Settings) (children : List Node) (tail : String)
    (outer : List Frame) (level : Level) : level.placeIn settings children tail outer =
      ⟨level.head, children, if level.link.isSome then "" else tail,
        (level.link.map fun link => Frame.mk link [] [] tail).toList ++
          addCaption settings level.caption outer⟩ := by
  unfold placeIn
  cases level.link <;> rfl

namespace Place

variable {format : Format} {settings : Settings} {place : Place} {index : Nat} {head : Head}
  {inner : List Node} {tail : String} {change : Change}

theorem surroundings_site (place : Place) :
    (place.site tail).surroundings = place.level.surroundings :=
  (place.stands .default ([] : List Event)).surroundings_eq

/-- The figcaption of a change goes into the open element or into the one around it. -/
theorem own_eq (handled : Change.Handled format settings (place.site tail) head inner change) :
    place.level.own change.figcaption = (place.site tail).captionAt head 0 := by
  rw [Level.own, Site.captionAt, surroundings_site, handled.figcaption_eq_map]

theorem caption_caught
    (handled : Change.Handled format settings (place.site tail) head inner change) :
    (place.level.caught change.figcaption).caption = (place.site tail).captionAt head 1 := by
  have free : (place.site tail).surroundings.insideFigure = false → change.figcaption = none := by
    intro free
    rw [handled.figcaption_eq_map, Site.figureCaption?_eq_none free]
    rfl
  rw [Level.caught, Site.captionAt, ← handled.figcaption_eq_map]
  rw [surroundings_site] at free ⊢
  -- Only a link in a figure hands a figcaption on; the other four kinds leave the level's.
  cases around : place.level.surroundings <;>
    simp_all [Surroundings.figure?, Surroundings.insideFigure, level]

/-- The place after a child with this head and this tail was handled, with `node` in its slot. -/
def filled (settings : Settings) (index : Nat) (head : Head) (tail : String) (node : Node)
    (place : Place) : Place where
  head := place.head
  children :=
    captionFront settings ((place.site tail).captionAt head 0) ++ place.children.take index ++
      node :: (place.children.drop (index + 1) ++
        captionBack settings ((place.site tail).captionAt head 0))
  tail := if ((place.site tail).figureLink? head).isSome then "" else place.tail
  outer :=
    (((place.site tail).figureLink? head).map fun href =>
        Frame.mk (anchor href) [] [] place.tail).toList ++
      addCaption settings ((place.site tail).captionAt head 1) place.outer

/-- A call of the visitor for an element that can be handled: what it answers, and the place that it
leaves. -/
theorem visitor_of_ok (events : List Event)
    (here : place.children[index]? = some (.element head inner tail))
    (done : Change.ofElement format settings (place.site tail) head inner = .ok change) :
    ∃ next, Enrich.visitor format settings ⟨place, place.chain, events⟩ index =
        .ok (some ((captionFront settings ((place.site tail).captionAt head 0)).length + index),
          next) ∧
      next.place = place.filled settings index head tail (change.slot.withTail tail) := by
  have handled := Change.ofElement_handled done
  have stands := place.stands settings events
  have split := split_children here
  have length_eq : (place.children.take index).length = index := by
    have bound := (List.getElem?_eq_some_iff.mp here).1
    rw [List.length_take]
    omega
  rw [← split] at stands
  obtain ⟨next, called, next'⟩ := stands.visitor_of_ok done
  have link : ((place.level.caught change.figcaption).linked change.parentLink).link =
      ((place.site tail).figureLink? head).map anchor := by
    rw [Level.linked, Level.caught_link, handled.parentLink_eq_map]
    exact Option.or_none
  have caption : ((place.level.caught change.figcaption).linked change.parentLink).caption =
      (place.site tail).captionAt head 1 := caption_caught handled
  have placed := next'.place_eq
  rw [Level.placeIn_eq, link, caption, own_eq handled, Option.isSome_map, Option.map_map,
    Level.linked, Level.caught_head] at placed
  rw [own_eq handled, List.length_append, length_eq] at called
  exact ⟨next, called, placed⟩

/-- The change of an element for which the visitor is called without failure. -/
theorem exists_change {events : List Event} {found : Option Nat} {next : Walk (List Event)}
    (here : place.children[index]? = some (.element head inner tail))
    (called : Enrich.visitor format settings ⟨place, place.chain, events⟩ index =
      .ok (found, next)) :
    ∃ change, Change.ofElement format settings (place.site tail) head inner = .ok change := by
  simp only [Enrich.visitor, here] at called
  split at called
  · rename_i change done
    exact ⟨change, done⟩
  · cases called

theorem countTag_root (tag : String) (place : Place) :
    place.root.countTag tag = [place.head.tag].count tag + Node.countTags tag place.children +
      Frame.countTags tag place.outer := by
  rw [root, Node.countTag_within, node, Node.countTag_element]

theorem countTag_root_setChild (tag : String) (node : Node)
    (bound : index < place.children.length) :
    (place.setChild index node).root.countTag tag =
      [place.head.tag].count tag + Node.countTags tag (place.children.take index) +
        node.countTag tag + Node.countTags tag (place.children.drop (index + 1)) +
        Frame.countTags tag place.outer := by
  rw [countTag_root, setChild, withChildren, List.set_eq_take_append_cons_drop, if_pos bound]
  simp only [Node.countTags_append, Node.countTags_cons]
  omega

/-- A figcaption for the figure around the child is in one of two places, and both are there. -/
theorem countTag_captions (settings : Settings) (head : Head) (tail tag : String) (place : Place) :
    Node.countTags tag ((place.site tail).captionAt head 0).toList +
        Frame.countTags tag
          (addCaption settings ((place.site tail).captionAt head 1) place.outer) =
      (captionTags ((place.site tail).figureCaption? head)).count tag +
        Frame.countTags tag place.outer := by
  rw [← countTags_captions, Site.captionAt, Site.captionAt]
  match figure : (place.site tail).surroundings.figure? with
  | none =>
    have free : (place.site tail).surroundings.insideFigure = false := by
      rw [Surroundings.insideFigure, figure]
      rfl
    simp [Site.figureCaption?_eq_none free, addCaption_none]
  | some 0 => simp [addCaption_none]
  | some (up + 1) =>
    -- The figure is the grandparent, so that there is a frame for its caption.
    have one : (place.site tail).surroundings.figure? = some 1 := by
      revert figure
      cases (place.site tail).surroundings <;> simp [Surroundings.figure?]
    have around := one
    rw [surroundings_site] at around
    obtain ⟨-, inFigure⟩ := Surroundings.ofTags_linkInFigure around
    cases outer : place.outer with
    | nil => simp [Level.around, level, outer] at inFigure
    | cons frame outer =>
      obtain rfl : up = 0 := by simpa [figure] using one
      simp [countTag_addCaption, Node.countTags]

/-- The elements in a document after a child was handled. -/
theorem countTag_filled (settings : Settings) (head : Head) (tail tag : String) (node : Node)
    (bound : index < place.children.length) :
    (place.filled settings index head tail node).root.countTag tag =
      (place.setChild index node).root.countTag tag +
        (captionTags ((place.site tail).figureCaption? head)).count tag +
        (if ((place.site tail).figureLink? head).isSome then ["a"] else []).count tag := by
  have captions := countTag_captions settings head tail tag place
  have sides := countTags_captionSides settings tag ((place.site tail).captionAt head 0)
  have link : Frame.countTags tag (((place.site tail).figureLink? head).map fun href =>
      Frame.mk (anchor href) [] [] place.tail).toList =
        (if ((place.site tail).figureLink? head).isSome then ["a"] else []).count tag := by
    cases (place.site tail).figureLink? head with
    | none => rfl
    | some href => rfl
  rw [countTag_root, countTag_root_setChild tag node bound, filled]
  simp only [Node.countTags_append, Node.countTags_cons, Frame.countTags_append, link]
  omega

end Place

/-- **A media element is wrapped in its slot,** in every format. A call of the visitor that does not
fail, with the chain above the element as its ancestors, answers where the element stands in its
wrapping. It adds at most one figure, one figcaption and one link to the whole document, and leaves
all other children of the parent as they were. -/
theorem wrapped_in_slot {format : Format} (settings : Settings) (place : Place)
    (events : List Event) {index : Nat} {head : Head} {inner : List Node} {tail : String}
    {found : Option Nat} {next : Walk (List Event)}
    (here : place.children[index]? = some (.element head inner tail))
    (called : Enrich.visitor format settings ⟨place, place.chain, events⟩ index =
      .ok (found, next)) :
    ∃ media position, found = some position ∧
      WrappedInSlot settings place index head inner tail media position next.place := by
  obtain ⟨change, done⟩ := place.exists_change here called
  have handled := Change.ofElement_handled done
  obtain ⟨next', called', placed⟩ := place.visitor_of_ok events here done
  obtain ⟨rfl, rfl⟩ : found = _ ∧ next = next' := by
    simpa using called.symm.trans called'
  have bound := (List.getElem?_eq_some_iff.mp here).1
  have before_eq : (captionFront settings ((place.site tail).captionAt head 0)).length + index =
      (captionFront settings ((place.site tail).captionAt head 0) ++
        place.children.take index).length := by
    rw [List.length_append, List.length_take, Nat.min_eq_left (Nat.le_of_lt bound)]
  refine ⟨change.media, _, rfl, ?_⟩
  rw [placed, handled.slot_eq]
  constructor
  case becomes => exact handled.becomes
  case slot =>
    rw [before_eq, Place.filled]
    simp
  case position_eq => rfl
  case siblings =>
    rw [before_eq, Place.filled, List.eraseIdx_append_of_length_le (Nat.le_refl _), Nat.sub_self,
      List.eraseIdx_cons_zero, List.eraseIdx_eq_take_drop_succ]
    simp
  case parent => rfl
  case outer => rfl
  case behind => rfl
  case atMostOne => exact Site.newTags_sublist head _
  case added =>
    intro tag'
    rw [Place.countTag_filled settings head tail tag' _ bound,
      Place.countTag_root_setChild tag' _ bound, Place.countTag_root_setChild tag' _ bound,
      Node.countTag_withTail, Node.countTag_withTail, Wrapping.countTag_around, Site.newTags,
      List.count_append, List.count_append]
    omega

/-- An element with an image behind its first child. -/
def illustrated (tag : String) (outer : List Frame) : Place :=
  ⟨.new tag [] "", [.comment "note" "", (Node.picture "[x.png]" "^c").withTail "behind"], "after",
    outer⟩

/-- The image is wrapped where it stands in no figure; a figure that it stands in gets the caption,
in front, and the link. -/
theorem wrapped_in_slot_illustrated :
    let above : Settings := { Settings.default with captionPosition := .above }
    let head : Head := .new Kind.image.tag [("src", .text "[x.png]"), ("alt", .text "^c")] ""
    let root := illustrated "div" []
    let figure := illustrated "figure" [⟨.new "div" [] "", [], [.comment "last" ""], ""⟩]
    (∃ next media, Enrich.visitor .data above ⟨root, root.chain, []⟩ 1 = .ok (some 1, next) ∧
        WrappedInSlot above root 1 head [] "behind" media 1 next.place ∧
        (root.site "behind").wrapping head = .figureInLink (some "c") "x.png") ∧
      ∃ next media, Enrich.visitor .data above ⟨figure, figure.chain, []⟩ 1 = .ok (some 2, next) ∧
        WrappedInSlot above figure 1 head [] "behind" media 2 next.place ∧
        (figure.site "behind").wrapping head = .bare ∧
        (figure.site "behind").newTags head = ["figcaption", "a"] := by
  intro above head root figure
  have works (place : Place)
      (done : (Enrich.visitor .data above ⟨place, place.chain, []⟩ 1).toOption.isSome = true) :
      ∃ found next, Enrich.visitor .data above ⟨place, place.chain, []⟩ 1 = .ok (found, next) := by
    cases called : Enrich.visitor .data above ⟨place, place.chain, []⟩ 1 with
    | error failed =>
      rw [called] at done
      cases done
    | ok answer => exact ⟨answer.1, answer.2, rfl⟩
  constructor
  · obtain ⟨found, next, called⟩ := works root (by decide +kernel)
    have here : root.children[1]? = some (.element head [] "behind") := rfl
    obtain ⟨media, position, rfl, wrapped⟩ := wrapped_in_slot above root [] here called
    obtain rfl : position = 1 := wrapped.position_eq
    exact ⟨next, media, called, wrapped, by decide +kernel⟩
  · obtain ⟨found, next, called⟩ := works figure (by decide +kernel)
    have here : figure.children[1]? = some (.element head [] "behind") := rfl
    obtain ⟨media, position, rfl, wrapped⟩ := wrapped_in_slot above figure [] here called
    obtain rfl : position = 2 := wrapped.position_eq
    exact ⟨next, media, called, wrapped, by decide +kernel, by decide +kernel⟩

end MediaMarkup
