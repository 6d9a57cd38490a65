import MediaMarkup.Proofs.LevelRun
import MediaMarkup.Proofs.LinkSearch
import MediaMarkup.Proofs.Paragraphs

/-!
Which documents come out of a pass with a link in a link. Where no link of a document lies in
another one and every media element in a link sees it (`Node.Tidy`), a pass leaves a link in a link
just where two of them meet (`Node.clashes`): around and in a figure (`Node.linksTwice`), or around
and in an image. Main statement: `nests_enrich_iff`.
-/

namespace MediaMarkup

/-! ## Levels outside of links -/

/-- An open element that is no link and came in none. -/
structure Level.Free (level : Level) : Prop where
  noLink : level.head.tag ≠ "a"
  outside : level.outer ≠ some "a"

namespace Level

variable {level : Level}

/-- Whether images in brackets among the children get the open element linked. -/
def lifts (level : Level) : Bool :=
  decide (level.head.tag = "figure") && level.outer.isSome

theorem Free.below (free : level.Free) {head : Head} (other : head.tag ≠ "a")
    (siblings : List Node) : (level.below head siblings).Free :=
  ⟨other, by simpa [Level.below] using free.noLink⟩

/-- On a free level, images stand in a link if one was put around their figure. -/
theorem Free.insideLink_eq (free : level.Free) (regular : level.Regular) :
    level.surroundings.insideLink = level.link.isSome := by
  cases h : level.link with
  | none =>
    rw [Option.isSome_none, ← Bool.not_eq_true, surroundings, around, h,
      Surroundings.insideLink_ofTags]
    rintro (isLink | ⟨-, inLink⟩)
    · exact free.noLink isLink
    · exact free.outside inLink
  | some link =>
    obtain ⟨isFigure, href, rfl⟩ := regular.link link h
    rw [Option.isSome_some, surroundings, around, h, Surroundings.insideLink_ofTags]
    exact .inr ⟨isFigure, rfl⟩

/-- On a free level, the figure around images is linked once. -/
theorem Free.figure_eq (free : level.Free) (regular : level.Regular) :
    (decide (level.surroundings = .figure) && level.around.isSome) =
      (level.lifts && !level.link.isSome) := by
  cases h : level.link with
  | none =>
    have around_eq : level.around = level.outer := by
      rw [around, h]
    rw [surroundings, around_eq, Option.isSome_none, Bool.not_false, Bool.and_true, lifts]
    by_cases isFigure : level.head.tag = "figure"
    · simp [Surroundings.ofTags, isFigure, free.outside]
    · simp [Surroundings.ofTags, isFigure, free.noLink]
  | some link =>
    obtain ⟨isFigure, href, rfl⟩ := regular.link link h
    have around_eq : level.around = some "a" := by
      rw [around, h]
      rfl
    rw [surroundings, around_eq, isFigure, Option.isSome_some, Option.isSome_some, Bool.not_true,
      Bool.and_false]
    rfl

theorem Free.visited (free : level.Free) (caption : Option Node) (link : Option Head) :
    ((level.caught caption).linked link).Free :=
  ⟨by simpa [Level.linked] using free.noLink, by simpa [Level.linked] using free.outside⟩

theorem lifts_visited (caption : Option Node) (link : Option Head) :
    ((level.caught caption).linked link).lifts = level.lifts := by
  simp [lifts, linked]

theorem isSome_link_visited (caption : Option Node) (link : Option Head) :
    ((level.caught caption).linked link).link.isSome = (link.isSome || level.link.isSome) := by
  cases link <;> simp [Level.linked]

theorem containsTag_close (regular : level.Regular) (noLink : level.head.tag ≠ "a")
    (children : List Node) (tail : String) :
    (level.close children tail).containsTag "a" =
      (level.link.isSome || Node.findsAny (.tagged "a") children) := by
  unfold close
  cases h : level.link with
  | none => simp [Node.containsTag_element, noLink]
  | some link =>
    obtain ⟨-, href, rfl⟩ := regular.link link h
    simp [Node.containsTag_element, anchor, Head.new]

theorem nests_close (regular : level.Regular) (noLink : level.head.tag ≠ "a")
    (children : List Node) (tail : String) :
    (level.close children tail).nests "a" =
      if level.link.isSome then Node.findsAny (.tagged "a") children
      else Node.findsAny (.nesting "a") children := by
  unfold close
  cases h : level.link with
  | none => exact Node.nests_of_ne noLink
  | some link =>
    obtain ⟨-, href, rfl⟩ := regular.link link h
    have inner : (Node.element level.head children "").finds (.tagged "a") =
        Node.findsAny (.tagged "a") children := Node.finds_of_none (if_neg noLink)
    have isLink : (anchor href).tag = "a" := rfl
    dsimp only
    rw [Node.nests_of_tag isLink, Node.findsAny_cons, inner, Node.findsAny_nil, Bool.or_false]
    rfl

end Level

/-- An element that is closed again is no image. -/
theorem Level.linkAsked?_close {level : Level} (regular : level.Regular)
    (other : level.head.tag ∉ Media.tags) (children : List Node) (tail : String) :
    (level.close children tail).linkAsked? = none := by
  unfold close
  cases h : level.link with
  | none =>
    refine Head.linkAsked?_of_ne fun image => other ?_
    rw [image]
    decide
  | some link =>
    obtain ⟨-, href, rfl⟩ := regular.link link h
    have noImage : (anchor href).tag ≠ Kind.image.tag := show "a" ≠ "img" by decide
    exact Head.linkAsked?_of_ne noImage

/-! ## Handling one element -/

namespace Change.Handled

variable {settings : Settings} {level : Level} {nodes inner : List Node} {head : Head}
  {change : Change}

/-- On a free level, an image in brackets gets the figure around it linked. -/
theorem isSome_parentLink_free
    (handled : Handled .data settings (level.site nodes) head inner change)
    (free : level.Free) (regular : level.Regular) :
    change.parentLink.isSome =
      (level.lifts && !level.link.isSome && decide (head.linkAsked? = some .bracket)) := by
  rw [handled.isSome_parentLink, ← free.figure_eq regular]
  rfl

theorem tag_ne_link {head : Head} (h : head.tag ∈ Media.tags ∨ head.tag = "source") :
    head.tag ≠ "a" := by
  intro isLink
  rw [isLink] at h
  revert h
  decide

/-- The links in the slot are the one that the image asks for, and those that were in it. -/
theorem containsTag_slot (handled : Handled .data settings (level.site nodes) head inner change)
    (free : level.Free) (regular : level.Regular) (media : head.tag ∈ Media.tags)
    (tail : String) :
    (change.slot.withTail tail).containsTag "a" =
      (head.linkAsked?.isSome && !level.link.isSome && !change.parentLink.isSome ||
        !head.converts && Node.findsAny (.tagged "a") inner) := by
  have inside : (level.site nodes).surroundings.insideLink = level.link.isSome :=
    free.insideLink_eq regular
  have kept : change.media.containsTag "a" =
      (!head.converts && Node.findsAny (.tagged "a") inner) :=
    handled.finds_media media fun _ _ h => if_neg (tag_ne_link h)
  rw [Node.containsTag, Node.finds_withTail, ← Node.containsTag, slot,
    Node.containsTag_within handled.isShell (by decide), handled.links_shells, inside, kept]

/-- Links lie in one another in the slot if the image asks for one and has one in it. -/
theorem nests_slot (handled : Handled .data settings (level.site nodes) head inner change)
    (free : level.Free) (regular : level.Regular) (media : head.tag ∈ Media.tags)
    (unnested : Node.findsAny (.nesting "a") inner = false) (tail : String) :
    (change.slot.withTail tail).nests "a" =
      (head.linkAsked?.isSome && !level.link.isSome && !change.parentLink.isSome &&
        (!head.converts && Node.findsAny (.tagged "a") inner)) := by
  have inside : (level.site nodes).surroundings.insideLink = level.link.isSome :=
    free.insideLink_eq regular
  have kept : change.media.containsTag "a" =
      (!head.converts && Node.findsAny (.tagged "a") inner) :=
    handled.finds_media media fun _ _ h => if_neg (tag_ne_link h)
  have flat : change.media.nests "a" =
      (!head.converts && Node.findsAny (.nesting "a") inner) :=
    handled.finds_media media fun _ _ h => if_neg (tag_ne_link h)
  rw [unnested, Bool.and_false] at flat
  rw [Node.nests, Node.finds_withTail, ← Node.nests, slot,
    Node.nests_within handled.isShell (by decide) handled.countP_links_shells,
    handled.links_shells, inside, kept, flat, Bool.or_false]

end Change.Handled

/-! ## A pass outside of links -/

namespace Pass

variable {settings : Settings} {level last below : Level}
  {before todo children siblings inner inner' : List Node} {head : Head} {tail : String}
  {log : List Head}

/-- A link that is closed again is a tidy link. -/
theorem close_of_link
    (inside : Pass .data settings (level.below head siblings) [] inner log below inner')
    (isLink : head.tag = "a") (tidy : (Node.element head inner tail).Tidy) :
    below.close inner' tail = .element head inner' tail ∧ ∀ node ∈ inner', node.TidyIn "a" := by
  have inLink : (level.below head siblings).surroundings.insideLink = true :=
    Surroundings.insideLink_ofTags.mpr (.inl isLink)
  have tidyIn : ∀ node ∈ [] ++ inner, node.TidyIn (level.below head siblings).head.tag := by
    rw [show (level.below head siblings).head.tag = "a" from isLink]
    exact tidy.children_of_link isLink
  obtain ⟨kept, link_eq⟩ := inside.insideLink inLink tidyIn
  have noLink : below.link = none := link_eq
  rw [show (level.below head siblings).head.tag = "a" from isLink] at kept
  refine ⟨?_, kept⟩
  rw [Level.close, noLink, inside.level_eq.1]
  rfl

theorem linkAsked?_captionBack {caption : Option Node}
    (isCaption : ∀ node ∈ caption, ∃ text, node = figcaption text) :
    ∀ node ∈ captionBack settings caption, node.linkAsked? = none := by
  intro node mem
  obtain ⟨text, rfl⟩ := isCaption node (mem_captionBack mem)
  exact Node.linkAsked?_of_other (show "figcaption" ∉ Media.tags by decide)

theorem asksOutside_captionBack {caption : Option Node}
    (isCaption : ∀ node ∈ caption, ∃ text, node = figcaption text) :
    (captionBack settings caption).any Node.asksOutside = false := by
  rw [List.any_eq_false]
  intro node mem
  simp [Node.asksOutside, linkAsked?_captionBack isCaption node mem]

theorem asksDeeper_captionBack {caption : Option Node}
    (isCaption : ∀ node ∈ caption, ∃ text, node = figcaption text) :
    Node.asksDeeper (captionBack settings caption) = false := by
  have unasked : Node.findsAny .linkAsked (captionBack settings caption) = false :=
    Search.linkAsked_passesCaptions.findsAny_captionBack isCaption
  rw [Node.findsAny_eq_false] at unasked
  rw [Node.asksDeeper, List.any_eq_false]
  intro node mem
  simp [unasked node mem]

/-- New figcaptions among the children are tidy. -/
theorem tidy_captionBack {node : Node} {caption : Option Node}
    (isCaption : ∀ node ∈ caption, ∃ text, node = figcaption text)
    (tidy : ∀ child ∈ node :: todo, child.Tidy) :
    ∀ child ∈ todo ++ captionBack settings caption, child.Tidy := by
  intro child mem
  rcases List.mem_append.mp mem with mem | mem
  · exact tidy child (List.mem_cons_of_mem _ mem)
  · obtain ⟨text, rfl⟩ := isCaption child (mem_captionBack mem)
    exact Node.tidy_figcaption text

/-- An element that is walked again is a tidy link. -/
theorem tidy_again
    (inside : Pass .data settings (level.below head siblings) [] inner log below inner')
    {caption : Node} (moved : captionFront settings below.caption = [caption])
    (tidy : ∀ child ∈ .element head inner tail :: todo, child.Tidy) :
    head.tag = "a" ∧ below.close inner' tail = .element head inner' tail ∧
      ∀ child ∈ below.close inner' tail :: todo, child.Tidy := by
  have isLink := (inside.linkInFigure_of_moved moved).1
  obtain ⟨close_eq, innerTidy⟩ := inside.close_of_link isLink (tidy _ List.mem_cons_self)
  refine ⟨isLink, close_eq, ?_⟩
  intro child mem
  rcases List.mem_cons.mp mem with rfl | mem
  · rw [close_eq]
    exact Node.tidy_of_link isLink innerTidy
  · exact tidy child (List.mem_cons_of_mem _ mem)

/-- An element that is closed again holds a link if one was kept in it, or if one was asked for. -/
theorem links_close_eq
    (inside : Pass .data settings (level.below head siblings) [] inner log below inner')
    (free : level.Free) (other : head.tag ∉ Media.tags)
    (tidy : (Node.element head inner tail).Tidy)
    (innerEq : (level.below head siblings).Free → (∀ node ∈ inner, node.Tidy) →
      (below.link.isSome || Node.findsAny (.tagged "a") inner') =
        ((level.below head siblings).link.isSome || Node.findsAny (.tagged "a") [] ||
          (Node.findsAny .linkKept inner || Node.findsAny .linkAsked inner))) :
    (below.close inner' tail).finds (.tagged "a") =
      ((Node.element head inner tail).finds .linkKept ||
        (Node.element head inner tail).finds .linkAsked) := by
  by_cases isLink : head.tag = "a"
  · have found : (Node.element head inner' tail).finds (.tagged "a") = true :=
      Node.finds_of_some (if_pos isLink)
    rw [(inside.close_of_link isLink tidy).1, found, Node.finds_linkKept_of_link isLink,
      Bool.true_or]
  · have found := Level.containsTag_close inside.regular_below (by rwa [inside.head_below]) inner'
      tail
    rw [innerEq (free.below isLink siblings) (tidy.children_of_other isLink), Node.containsTag]
      at found
    rw [found, Node.finds_linkKept_of_other other isLink,
      Node.finds_linkAsked_of_other other isLink, Node.findsAny_nil, Bool.or_false]
    exact Bool.false_or _

/-- What comes out of a level holds a link if there was one, if one is kept, or if one is asked
for. -/
theorem links_eq (pass : Pass .data settings level before todo log last children)
    (free : level.Free) (regular : level.Regular) (tidy : ∀ node ∈ todo, node.Tidy) :
    (last.link.isSome || Node.findsAny (.tagged "a") children) =
      (level.link.isSome || Node.findsAny (.tagged "a") before ||
        (Node.findsAny .linkKept todo || Node.findsAny .linkAsked todo)) := by
  induction pass with
  | done => simp
  | skip noElement rest ih =>
    rw [ih free regular fun node mem => tidy node (List.mem_cons_of_mem _ mem)]
    simp [Node.finds_of_noElement noElement]
  | @visit level last before todo children inner head tail change log media handled rest ih =>
    have own := level.own_figcaption handled
    have slot := handled.containsTag_slot free regular media tail
    have asked : change.parentLink.isSome = true → head.linkAsked?.isSome = true := by
      rw [handled.isSome_parentLink]
      simp only [Bool.and_eq_true, decide_eq_true_eq]
      rintro ⟨-, bracket⟩
      rw [bracket, Option.isSome_some]
    rw [ih (free.visited _ _) (handled.regular regular) (tidy_captionBack own tidy)]
    rw [Node.containsTag] at slot
    simp only [Node.findsAny_append, Node.findsAny_cons, Node.findsAny_nil, Bool.or_false,
      Bool.false_or, Search.link_passesCaptions.findsAny_captionFront own,
      Search.linkKept_passesCaptions.findsAny_captionBack own,
      Search.linkAsked_passesCaptions.findsAny_captionBack own, slot, Level.isSome_link_visited,
      Node.finds_linkKept_of_media media, Node.finds_linkAsked_of_media media]
    cases linked : change.parentLink.isSome with
    | true => simp [asked linked]
    | false =>
      cases level.link.isSome
      · simp only [Bool.false_or, Bool.not_false, Bool.and_true]
        ac_rfl
      · simp
  | @enter level last below before todo children inner inner' head tail log log' other inside kept
      rest innerIh ih =>
    have regularBelow := inside.regular_below
    rw [ih free regular (tidy_captionBack regularBelow.caption tidy)]
    simp only [Node.findsAny_append, Node.findsAny_cons, Node.findsAny_nil, Bool.or_false,
      Search.linkKept_passesCaptions.findsAny_captionBack regularBelow.caption,
      Search.linkAsked_passesCaptions.findsAny_captionBack regularBelow.caption]
    have found : (below.close inner' tail).finds (.tagged "a") = _ :=
      inside.links_close_eq free other (tidy _ List.mem_cons_self) fun freeBelow tidyBelow =>
        innerIh freeBelow (Level.below_regular head _ level) tidyBelow
    rw [found]
    ac_rfl
  | @again level last below before todo children inner inner' head tail caption log log' other
      inside moved rest innerIh ih =>
    obtain ⟨isLink, close_eq, tidy'⟩ := inside.tidy_again moved tidy
    have regularBelow := inside.regular_below
    have front := Search.link_passesCaptions.finds_moved regularBelow.caption moved
    rw [ih free regular tidy', close_eq]
    simp [front, Node.finds_linkKept_of_link isLink, Node.finds_linkAsked_of_link isLink]

/-- A level gets a link if it is a figure with an image in brackets among its children. -/
theorem link_eq (pass : Pass .data settings level before todo log last children) (free : level.Free)
    (regular : level.Regular) :
    last.link.isSome =
      (level.link.isSome || level.lifts && todo.any Node.asksOutside) := by
  induction pass with
  | done => simp
  | skip noElement rest ih =>
    rw [ih free regular, List.any_cons, Node.asksOutside_of_noElement noElement, Bool.false_or]
  | @visit level last before todo children inner head tail change log media handled rest ih =>
    have own := level.own_figcaption handled
    have parent := handled.isSome_parentLink_free free regular
    have here : (Node.element head inner tail).asksOutside =
      decide (head.linkAsked? = some .bracket) := rfl
    rw [ih (free.visited _ _) (handled.regular regular), Level.lifts_visited,
      Level.isSome_link_visited, parent, List.any_append, List.any_cons, here,
      asksOutside_captionBack own, Bool.or_false]
    cases level.link.isSome <;> cases level.lifts <;> simp
  | @enter level last below before todo children inner inner' head tail log log' other inside kept
      rest innerIh ih =>
    have regularBelow := inside.regular_below
    rw [ih free regular, List.any_append, List.any_cons, Node.asksOutside_of_other other,
      asksOutside_captionBack regularBelow.caption, Bool.or_false, Bool.false_or]
  | @again level last below before todo children inner inner' head tail caption log log' other
      inside moved rest innerIh ih =>
    have regularBelow := inside.regular_below
    have close := below.linkAsked?_close regularBelow (by rwa [inside.head_below]) inner' tail
    have closed : (below.close inner' tail).asksOutside = false := by
      simp [Node.asksOutside, close]
    rw [ih free regular, List.any_cons, List.any_cons, Node.asksOutside_of_other other, closed]

/-- What comes out of a figure that can be linked holds a link if one is kept, if one is asked for
deeper in it, or before the figure is linked. -/
theorem links_lifted (pass : Pass .data settings level before todo log last children)
    (free : level.Free) (regular : level.Regular) (tidy : ∀ node ∈ todo, node.Tidy)
    (lifts : level.lifts = true) :
    Node.findsAny (.tagged "a") children =
      (Node.findsAny (.tagged "a") before || (Node.findsAny .linkKept todo ||
        !level.link.isSome && Node.asksFirst todo || Node.asksDeeper todo)) := by
  induction pass with
  | done => simp [Node.asksFirst, Node.asksDeeper]
  | skip noElement rest ih =>
    rw [ih free regular (fun node mem => tidy node (List.mem_cons_of_mem _ mem)) lifts,
      Node.asksFirst_cons, Node.asksDeeper_cons, Node.asksOutside_of_noElement noElement,
      Node.linkAsked?_of_noElement noElement]
    simp [Node.finds_of_noElement noElement]
  | @visit level last before todo children inner head tail change log media handled rest ih =>
    have own := level.own_figcaption handled
    have slot := handled.containsTag_slot free regular media tail
    have parent := handled.isSome_parentLink_free free regular
    have here : (Node.element head inner tail).linkAsked? = head.linkAsked? := rfl
    have outside : (Node.element head inner tail).asksOutside =
      decide (head.linkAsked? = some .bracket) := rfl
    rw [lifts, Bool.true_and] at parent
    rw [Node.containsTag] at slot
    rw [ih (free.visited _ _) (handled.regular regular) (tidy_captionBack own tidy)
      (by rw [Level.lifts_visited, lifts])]
    simp only [Node.findsAny_append, Node.findsAny_cons, Node.findsAny_nil, Bool.or_false,
      Bool.false_or, Search.link_passesCaptions.findsAny_captionFront own,
      Search.linkKept_passesCaptions.findsAny_captionBack own, slot, Level.isSome_link_visited,
      Node.finds_linkKept_of_media media, Node.finds_linkAsked_of_media media,
      Node.asksFirst_cons, Node.asksFirst_append (linkAsked?_captionBack own),
      Node.asksDeeper_cons, Node.asksDeeper_append, asksDeeper_captionBack own, here, outside,
      parent]
    have never : (head.linkAsked?.isNone && head.linkAsked?.isSome) = false := by
      cases head.linkAsked? <;> rfl
    rw [never]
    cases level.link.isSome with
    | true => simp only [Bool.not_true, Bool.and_false, Bool.false_and, Bool.false_or,
        Bool.or_true, Bool.or_false, Bool.or_assoc]
    | false =>
      by_cases bracket : head.linkAsked? = some .bracket
      · simp [bracket, Bool.or_assoc]
      · simp only [bracket, decide_false, Bool.not_false, Bool.and_true, Bool.true_and,
          Bool.or_false, Bool.false_or, Bool.false_eq_true, ↓reduceIte]
        ac_rfl
  | @enter level last below before todo children inner inner' head tail log log' other inside kept
      rest innerIh ih =>
    have regularBelow := inside.regular_below
    rw [ih free regular (tidy_captionBack regularBelow.caption tidy) lifts]
    have tidyHere := tidy _ List.mem_cons_self
    simp only [Node.findsAny_append, Node.findsAny_cons, Node.findsAny_nil, Bool.or_false,
      Search.linkKept_passesCaptions.findsAny_captionBack regularBelow.caption,
      Node.asksFirst_cons, Node.asksFirst_append (linkAsked?_captionBack regularBelow.caption),
      Node.asksDeeper_cons, Node.asksDeeper_append, asksDeeper_captionBack regularBelow.caption,
      Node.asksOutside_of_other other, Node.linkAsked?_of_other other, Option.isNone_none,
      Option.isSome_none, Bool.true_and, Bool.false_or, Bool.false_eq_true, ↓reduceIte]
    have found : (below.close inner' tail).finds (.tagged "a") = _ :=
      inside.links_close_eq free other tidyHere fun freeBelow tidyBelow =>
        inside.links_eq freeBelow (Level.below_regular head _ level) tidyBelow
    rw [found]
    ac_rfl
  | @again level last below before todo children inner inner' head tail caption log log' other
      inside moved rest innerIh ih =>
    obtain ⟨isLink, close_eq, tidy'⟩ := inside.tidy_again moved tidy
    have regularBelow := inside.regular_below
    have front := Search.link_passesCaptions.finds_moved regularBelow.caption moved
    rw [ih free regular tidy' lifts, close_eq]
    simp [front, Node.finds_linkKept_of_link isLink]

/-- Links lie in one another in an element that is closed again where they met in it. -/
theorem nests_close_eq
    (inside : Pass .data settings (level.below head siblings) [] inner log below inner')
    (free : level.Free) (other : head.tag ∉ Media.tags)
    (tidy : (Node.element head inner tail).Tidy)
    (plainIh : (level.below head siblings).Free →
      ((level.below head siblings).lifts && inner.any Node.asksOutside) = false →
        Node.findsAny (.nesting "a") inner' = Node.findsAny .clash inner) :
    (below.close inner' tail).nests "a" = (Node.element head inner tail).finds .clash := by
  by_cases isLink : head.tag = "a"
  · obtain ⟨close_eq, innerTidy⟩ := inside.close_of_link isLink tidy
    rw [close_eq, Node.nests_of_tag isLink, Node.finds_clash_of_link isLink,
      Node.findsAny_eq_false]
    exact fun node mem => (innerTidy node mem).unlinked
  · have freeBelow := free.below isLink siblings
    have startRegular := Level.below_regular head siblings level
    have tidyBelow := tidy.children_of_other isLink
    have linked := inside.link_eq freeBelow startRegular
    have lifts_eq : (level.below head siblings).lifts = decide (head.tag = "figure") :=
      Bool.and_true _
    rw [show (level.below head siblings).link.isSome = false from rfl, Bool.false_or] at linked
    rw [Level.nests_close (inside.regular startRegular) (by rwa [inside.head_below]), linked,
      Node.finds_clash_of_other other isLink]
    cases lifted : (level.below head siblings).lifts && inner.any Node.asksOutside with
    | false =>
      have notTwice : (decide (head.tag = "figure") && Node.linksTwice inner) = false := by
        rw [Node.linksTwice, ← Bool.and_assoc, ← lifts_eq, lifted, Bool.false_and]
      rw [if_neg (by decide), plainIh freeBelow lifted, notTwice, Bool.false_or]
    | true =>
      rw [Bool.and_eq_true] at lifted
      have found := inside.links_lifted freeBelow startRegular tidyBelow lifted.1
      have isFigure : decide (head.tag = "figure") = true := lifts_eq ▸ lifted.1
      have unlinked : (level.below head siblings).link.isSome = false := rfl
      rw [if_pos rfl, found, isFigure, Node.linksTwice, lifted.2, unlinked]
      simp only [Node.findsAny_nil, Bool.false_or, Bool.not_false, Bool.true_and]
      cases meets : Node.findsAny .clash inner with
      | false => rw [Bool.or_false]
      | true =>
        rw [Bool.or_true]
        rcases Node.linkKept_or_asksDeeper_of_clash meets with kept | deeper
        · simp [kept]
        · simp [deeper]

/-- On a level that is not linked itself, links come to lie in one another where they meet. -/
theorem nests_eq (pass : Pass .data settings level before todo log last children)
    (free : level.Free) (regular : level.Regular) (tidy : ∀ node ∈ todo, node.Tidy)
    (unlinked : level.link.isSome = false)
    (plain : (level.lifts && todo.any Node.asksOutside) = false) :
    Node.findsAny (.nesting "a") children =
      (Node.findsAny (.nesting "a") before || Node.findsAny .clash todo) := by
  induction pass with
  | done => simp
  | skip noElement rest ih =>
    rw [List.any_cons, Node.asksOutside_of_noElement noElement, Bool.false_or] at plain
    rw [ih free regular (fun node mem => tidy node (List.mem_cons_of_mem _ mem)) unlinked plain]
    simp [Node.finds_of_noElement noElement]
  | @visit level last before todo children inner head tail change log media handled rest ih =>
    have own := level.own_figcaption handled
    have tidyHere := tidy _ List.mem_cons_self
    have noLink : head.tag ≠ "a" := fun isLink => Node.media_ne_link isLink media
    have unnested := tidyHere.unnested
    rw [Node.nests_of_ne noLink] at unnested
    have slot := handled.nests_slot free regular media unnested tail
    have outside : (Node.element head inner tail).asksOutside =
      decide (head.linkAsked? = some .bracket) := rfl
    rw [List.any_cons, Bool.and_or_distrib_left, Bool.or_eq_false_iff] at plain
    have parent : change.parentLink.isSome = false := by
      rw [handled.isSome_parentLink_free free regular, unlinked, ← outside, Bool.not_false,
        Bool.and_true]
      exact plain.1
    have unlinked' : ((level.caught change.figcaption).linked change.parentLink).link.isSome =
        false := by
      rw [Level.isSome_link_visited, parent, unlinked, Bool.false_or]
    have plain' : (((level.caught change.figcaption).linked change.parentLink).lifts &&
        (todo ++ captionBack settings (level.own change.figcaption)).any Node.asksOutside) =
          false := by
      rw [Level.lifts_visited, List.any_append, asksOutside_captionBack own, Bool.or_false]
      exact plain.2
    rw [ih (free.visited _ _) (handled.regular regular) (tidy_captionBack own tidy) unlinked'
      plain']
    rw [Node.nests] at slot
    simp only [Node.findsAny_append, Node.findsAny_cons, Node.findsAny_nil, Bool.or_false,
      Bool.false_or, Search.nestedLink_passesCaptions.findsAny_captionFront own,
      Search.clash_passesCaptions.findsAny_captionBack own, slot, parent, unlinked,
      Node.finds_clash_of_media media, Bool.not_false, Bool.and_true, Bool.or_assoc]
    cases asked : head.linkAsked?.isSome with
    | false => simp
    | true => simp [Head.converts_of_linkAsked asked]
  | @enter level last below before todo children inner inner' head tail log log' other inside kept
      rest innerIh ih =>
    have regularBelow := inside.regular_below
    rw [List.any_cons, Node.asksOutside_of_other other, Bool.false_or] at plain
    have plain' : (level.lifts &&
        (todo ++ captionBack settings below.caption).any Node.asksOutside) = false := by
      rw [List.any_append, asksOutside_captionBack regularBelow.caption, Bool.or_false]
      exact plain
    rw [ih free regular (tidy_captionBack regularBelow.caption tidy) unlinked plain']
    have tidyHere := tidy _ List.mem_cons_self
    have closed : (below.close inner' tail).nests "a" =
        (Node.element head inner tail).finds .clash :=
      inside.nests_close_eq free other tidyHere fun freeBelow plainBelow =>
        innerIh freeBelow (Level.below_regular head _ level)
          (tidyHere.children_of_other freeBelow.noLink) rfl plainBelow
    rw [Node.nests] at closed
    simp only [Node.findsAny_append, Node.findsAny_cons, Node.findsAny_nil, Bool.or_false,
      Search.clash_passesCaptions.findsAny_captionBack regularBelow.caption, closed, Bool.or_assoc]
  | @again level last below before todo children inner inner' head tail caption log log' other
      inside moved rest innerIh ih =>
    obtain ⟨isLink, close_eq, tidy'⟩ := inside.tidy_again moved tidy
    have regularBelow := inside.regular_below
    have front := Search.nestedLink_passesCaptions.finds_moved regularBelow.caption moved
    rw [List.any_cons, Node.asksOutside_of_other other, Bool.false_or] at plain
    have plain' : (level.lifts && (below.close inner' tail :: todo).any Node.asksOutside) =
        false := by
      rw [close_eq, List.any_cons, Node.asksOutside_of_other other, Bool.false_or]
      exact plain
    rw [ih free regular tidy' unlinked plain', close_eq]
    simp [front, Node.finds_clash_of_link isLink]

end Pass

/-! ## Whole documents -/

/-- **Links in links.** In a document without a link in a link, in which every media element in a
link sees it, a pass leaves a link in a link just where two of them meet. -/
theorem nests_enrich_iff (settings : Settings) (tree : Node) (tidy : tree.Tidy)
    (finished : (tree.enrich settings).failure = none) :
    (tree.enrich settings).tree.nests "a" = true ↔
      settings.enable = true ∧ tree.clashes = true := by
  cases enabled : settings.enable with
  | false =>
    rw [Node.enrich_of_disabled enabled, tidy.unnested]
    simp
  | true =>
    cases tree with
    | comment text tail =>
      rw [Node.enrich_of_noElement rfl]
      simp [Node.nests, Node.clashes, Node.children]
    | instruction text tail =>
      rw [Node.enrich_of_noElement rfl]
      simp [Node.nests, Node.clashes, Node.children]
    | element head children tail =>
      obtain ⟨last, children', pass, tree_eq⟩ := Node.enrich_pass enabled finished
      rw [tree_eq, Node.nests_unravelIf (by decide)]
      by_cases isLink : head.tag = "a"
      · have inLink : (Level.root head).surroundings.insideLink = true :=
          Surroundings.insideLink_ofTags.mpr (.inl isLink)
        have tidyIn : ∀ node ∈ [] ++ children, node.TidyIn (Level.root head).head.tag := by
          rw [show (Level.root head).head.tag = "a" from isLink]
          exact tidy.children_of_link isLink
        have unlinked : Node.findsAny (.tagged "a") children' = false :=
          Node.findsAny_eq_false.mpr fun node mem =>
            ((pass.insideLink inLink tidyIn).1 node mem).unlinked
        rw [Node.nests_of_tag isLink, unlinked]
        simp [Node.clashes, Node.hasTag, Node.tag?, Node.head?, isLink]
      · have free : (Level.root head).Free := ⟨isLink, by simp [Level.root]⟩
        have plain : ((Level.root head).lifts && children.any Node.asksOutside) = false := by
          simp [Level.lifts, Level.root]
        have found := pass.nests_eq free (Level.root_regular head) (tidy.children_of_other isLink)
          rfl plain
        rw [Node.nests_of_ne isLink, found]
        simp [Node.clashes, Node.hasTag, Node.tag?, Node.head?, Node.children, isLink]

/-- Two images in a figure. -/
def twoPictures (first second : String) : Node :=
  .around "div" [.around "figure" [.picture first "", .picture second ""]]

/-- The image in brackets gets the figure linked first, and then the other one stands in a link. -/
theorem nests_enrich_iff_bracketFirst :
    (twoPictures "[y.png]" "(x.png)").Tidy ∧
      ((twoPictures "[y.png]" "(x.png)").enrich .default).failure = none ∧
      ¬((twoPictures "[y.png]" "(x.png)").enrich .default).tree.nests "a" = true := by
  have tidy : (twoPictures "[y.png]" "(x.png)").Tidy := ⟨by decide, by decide⟩
  have finished : ((twoPictures "[y.png]" "(x.png)").enrich .default).failure = none := by
    decide +kernel
  have apart : (twoPictures "[y.png]" "(x.png)").clashes = false := by decide +kernel
  refine ⟨tidy, finished, ?_⟩
  rw [nests_enrich_iff .default _ tidy finished, apart]
  decide

/-- In the other order, the figure is linked around a link: the document came without links in
links, and it leaves with one. -/
theorem nests_enrich_parenthesisFirst :
    (twoPictures "(x.png)" "[y.png]").Tidy ∧
      ((twoPictures "(x.png)" "[y.png]").enrich .default).failure = none ∧
      ((twoPictures "(x.png)" "[y.png]").enrich .default).tree.nests "a" = true :=
  ⟨⟨by decide, by decide⟩, by decide +kernel, by decide +kernel⟩

end MediaMarkup
