import MediaMarkup.Proofs.Derived
import MediaMarkup.Proofs.Media
import MediaMarkup.Proofs.Text

/-!
What handling does to the source, the alt text and the title of a media element that no directive is
keyed by. One wrapper is taken off the source (`Visited.showsSource`); and an element whose source
had no second wrapper is settled (`Visited.settled`), which means that it asks for nothing any more.
-/

namespace MediaMarkup

namespace Head

/-- The title of a media element, taken apart. -/
def title (head : Head) : Title :=
  .parse? (head.attributes.text? "title")

/-- No directive of the title has this key. -/
def Unkeyed (name : String) (head : Head) : Prop :=
  ∀ directive ∈ head.title.directives, directive.key ≠ name

end Head

/-! ## The attributes after a merge -/

namespace Request

variable {head : Head} {insideLink : Bool} {request : Request} {derived : AttributeSet}
  {attributes : Attributes} {name : String}

theorem title_eq (asked : ofHead? head insideLink = some request) : request.title = head.title := by
  obtain ⟨-, -, -, -, -, -, -, titleText, title⟩ := ofHead?_eq_some asked
  rw [title, titleText, Head.title]

theorem text?_editTitle_of_ne (other : name ≠ "title") :
    (request.editTitle attributes).text? name = attributes.text? name := by
  unfold editTitle
  split
  · rfl
  · split
    · exact Attributes.text?_erase_of_ne other attributes
    · exact Attributes.text?_setText_of_ne other _ attributes

theorem text?_editTitle_self (h : attributes.text? "title" = request.titleText) :
    (request.editTitle attributes).text? "title" = request.title.text := by
  unfold editTitle
  split
  · rename_i same
    rw [h, same]
  · split
    · rename_i absent
      rw [absent, Attributes.text?_erase_self]
    · rename_i text present
      rw [present, Attributes.text?_setText_self]

theorem text?_editAlt_of_ne (tag : String) (other : name ≠ "alt") :
    (request.editAlt tag attributes).text? name = attributes.text? name := by
  unfold editAlt
  split
  · rfl
  · split
    · exact Attributes.text?_setText_of_ne other _ attributes
    · exact Attributes.text?_erase_of_ne other attributes

/-- The source is written without its wrapper. -/
theorem source_merge {source : String} (asked : ofHead? head insideLink = some request)
    (derives : request.derive = .ok derived) (link : request.link = .ofSource source insideLink)
    (unkeyed : head.Unkeyed "src") :
    (request.merge .data derived head).attributes.text? "src" =
      some (Link.ofSource source false).source := by
  rw [Head.Unkeyed, ← title_eq asked] at unkeyed
  rw [text?_merge derives (by decide) unkeyed, editAttributes,
    text?_editTitle_of_ne (by decide), text?_editAlt_of_ne _ (by decide),
    Attributes.text?_setText_self, link, Link.source_ofSource source insideLink]

theorem title_merge (asked : ofHead? head insideLink = some request)
    (derives : request.derive = .ok derived) (unkeyed : head.Unkeyed "title") :
    (request.merge .data derived head).attributes.text? "title" = request.title.text := by
  obtain ⟨-, -, -, -, -, -, -, titleText, -⟩ := ofHead?_eq_some asked
  rw [Head.Unkeyed, ← title_eq asked] at unkeyed
  rw [text?_merge derives (by decide) unkeyed, editAttributes, text?_editTitle_self]
  rw [text?_editAlt_of_ne _ (by decide), Attributes.text?_setText_of_ne (by decide), titleText]

/-- A marked alt text stays without its markers, where an image stays one. -/
theorem alt_merge (asked : ofHead? head insideLink = some request)
    (derives : request.derive = .ok derived) (unkeyed : head.Unkeyed "alt") :
    (request.merge .data derived head).attributes.text? "alt" =
      match request.caption with
      | .plain _ => head.attributes.text? "alt"
      | .marked _ text =>
        if head.tag = Kind.image.tag && !request.converts head.tag then some text else none := by
  rw [Head.Unkeyed, ← title_eq asked] at unkeyed
  rw [text?_merge derives (by decide) unkeyed, editAttributes,
    text?_editTitle_of_ne (by decide), editAlt]
  cases request.caption with
  | plain alt => exact Attributes.text?_setText_of_ne (by decide) _ _
  | marked mode text =>
    dsimp only
    split
    · exact Attributes.text?_setText_self ..
    · exact Attributes.text?_erase_self ..

/-- A player keeps the attributes that are about neither the source nor the image. -/
theorem text?_player (settings : Settings) (request : Request) (attributes : Attributes)
    (other : name ∉ ["src", "alt", "controls"]) :
    (request.playerAttributes settings attributes).text? name = attributes.text? name := by
  simp only [List.mem_cons, List.not_mem_nil, or_false, not_or] at other
  obtain ⟨noSource, noAlt, noControls⟩ := other
  have kept : Attributes.text? name
      (Attributes.copied (Entries.erase "alt" (Entries.erase "src" attributes))) =
        attributes.text? name := by
    rw [Attributes.text?_copied, Attributes.text?_erase_of_ne noAlt,
      Attributes.text?_erase_of_ne noSource]
  unfold playerAttributes
  dsimp only
  split
  · rw [Attributes.text?_setText_of_ne noControls, kept]
  · exact kept

/-- A player has no source of its own. -/
theorem source_player (settings : Settings) (request : Request) (attributes : Attributes) :
    (request.playerAttributes settings attributes).text? "src" = none := by
  have kept : Attributes.text? "src"
      (Attributes.copied (Entries.erase "alt" (Entries.erase "src" attributes))) = none := by
    rw [Attributes.text?_copied, Attributes.text?_erase_of_ne (by decide),
      Attributes.text?_erase_self]
  unfold playerAttributes
  dsimp only
  split
  · rw [Attributes.text?_setText_of_ne (by decide), kept]
  · exact kept

end Request

/-! ## What is read a second time -/

theorem Caption.unmark_unmark (cs : List Char) : (unmark (unmark cs).2).1 = none := by
  fun_induction unmark cs with
  | case1 rest ih => exact ih
  | case2 rest ih => exact ih
  | case3 rest ih => exact ih
  | case4 rest ih => exact ih
  | case5 cs noCaret noStar noPlus noWord => rw [unmark] <;> assumption

/-- The text behind the markers has no markers. -/
theorem Caption.isMarked_text {alt text : String} {mode : CaptionMode}
    (h : ofAlt alt = .marked mode text) : (ofAlt text).isMarked = false := by
  unfold ofAlt at h
  split at h
  · rename_i mode' rest marked
    simp only [Caption.marked.injEq] at h
    obtain ⟨-, rfl⟩ := h
    have unmarked := unmark_unmark alt.toList
    rw [marked] at unmarked
    unfold ofAlt
    rw [String.toList_ofList]
    split
    · rename_i again
      simp [again] at unmarked
    · rfl
  · cases h

namespace Title

theorem readDirectives_nil : readDirectives [] = [] := by
  rw [readDirectives, tokenTexts, tokens_eq]
  rfl

/-- A title without a `>` is all text. -/
theorem parse_of_notMem {title : String} (h : '>' ∉ title.toList) :
    (parse title).text = some title ∧ (parse title).directives = [] := by
  simp only [parse, split, Text.cut_of_notMem h, Option.getD_none]
  exact ⟨by simp, readDirectives_nil⟩

/-- What is left of a title is all text. -/
theorem parse?_text (title : Option String) :
    (parse? (parse? title).text).text = (parse? title).text ∧
      (parse? (parse? title).text).directives = [] := by
  cases title with
  | none => exact ⟨rfl, rfl⟩
  | some title =>
    have noMark := Text.notMem_cut '>' title.toList
    rcases cut : Text.cut '>' title.toList with ⟨caption, _ | text⟩
    · have whole : (parse title).text = some title := by simp [parse, split, cut]
      have again : parse? (parse title).text = parse title := by rw [whole]; rfl
      rw [parse?, again]
      refine ⟨rfl, ?_⟩
      simp only [parse, split, cut, Option.getD_none]
      exact readDirectives_nil
    · rw [cut] at noMark
      by_cases blank : (Text.strip caption).isEmpty = true
      · have absent : (parse title).text = none := by simp [parse, split, cut, blank]
        rw [parse?, absent]
        exact ⟨rfl, rfl⟩
      · have left : (parse title).text = some (.ofList (Text.strip caption)) := by
          simp [parse, split, cut, blank]
        rw [parse?, left]
        apply parse_of_notMem
        rw [String.toList_ofList]
        exact fun h => noMark (Text.mem_of_mem_strip h)

end Title

/-! ## Handling one element -/

/-- A media element that shows a source: itself, or in its source element if it became a player. -/
def ShowsSource (element : Head × List Node) (source : String) : Prop :=
  element.1.attributes.text? "src" = some source ∨
    element.1.attributes.text? "src" = none ∧
      ∃ mime, element.2 = [sourceElement source mime]

namespace Visited

variable {settings : Settings} {old new : Head × List Node} {source : String}

theorem mark_eq (visited : Visited settings old new) : new.1.mark = old.1.mark := by
  obtain ⟨site, change, handled, media_eq⟩ := visited
  obtain ⟨head', children', media_eq', mark, -⟩ := handled.media_children
  rw [media_eq', Node.element.injEq] at media_eq
  rw [← media_eq.1, mark]

/-- Without a source an element is left as it was. -/
theorem eq_of_unasked (visited : Visited settings old new) (absent : old.1.source? = none) :
    new = old := by
  obtain ⟨site, change, handled, media_eq⟩ := visited
  cases handled with
  | untouched unasked =>
    rw [Change.none, Node.element.injEq] at media_eq
    exact Prod.ext media_eq.1.symm media_eq.2.1.symm
  | changed asked derives merges =>
    obtain ⟨source, present, -⟩ := Request.source?_of_asked asked
    simp [absent] at present

/-- An element with a source gets its attributes, and becomes a player if it has to. -/
theorem eq_of_asked (visited : Visited settings old new) (present : old.1.source? = some source) :
    ∃ insideLink request derived, Request.ofHead? old.1 insideLink = some request ∧
      request.derive = .ok derived ∧ request.link = .ofSource source insideLink ∧
      .element new.1 new.2 "" = request.finish settings
        { old.1 with attributes := (request.merge .data derived old.1).attributes } old.2 := by
  obtain ⟨site, change, handled, media_eq⟩ := visited
  cases handled with
  | untouched unasked =>
    have absent := Request.source?_of_unasked unasked
    simp [absent] at present
  | @changed request derived media events asked derives merges finishes =>
    obtain rfl := finishes.eq_finish
    refine ⟨site.surroundings.insideLink, request, derived, asked, derives, ?_, media_eq.symm⟩
    obtain ⟨source', present', link⟩ := Request.source?_of_asked asked
    rw [present, Option.some.injEq] at present'
    rw [link, present']

/-- One wrapper is taken off the source. -/
theorem showsSource (visited : Visited settings old new) (present : old.1.source? = some source)
    (unkeyed : old.1.Unkeyed "src") : ShowsSource new (Link.ofSource source false).source := by
  obtain ⟨insideLink, request, derived, asked, derives, link, new_eq⟩ :=
    visited.eq_of_asked present
  have unwrapped := Request.source_merge asked derives link unkeyed
  unfold Request.finish at new_eq
  split at new_eq
  · simp only [Request.player, Node.element.injEq] at new_eq
    obtain ⟨head_eq, children_eq, -⟩ := new_eq
    refine .inr ⟨?_, request.media.mime, ?_⟩
    · rw [head_eq]
      exact request.source_player settings _
    · rw [children_eq, sourceText, unwrapped, Option.getD_some]
  · rw [Node.element.injEq] at new_eq
    refine .inl ?_
    rw [new_eq.1]
    exact unwrapped

end Visited

/-! ## Settled elements -/

/-- A media element with this source asks for nothing. -/
structure Head.Quiet (source : String) (head : Head) : Prop where
  unwrapped : (Link.ofSource source false).wrapper = none
  unmarked : (Caption.ofAlt? (head.attributes.text? "alt")).isMarked = false
  undirected : head.title.directives = []
  trimmed : head.title.text = head.attributes.text? "title"
  unconverted : head.converts = false

/-- A media element that asks for nothing, if it has a source. -/
def Head.Settled (head : Head) : Prop :=
  ∀ source, head.source? = some source → head.Quiet source

/-- A media element with this source that asks for everything at once: there is no second wrapper
behind the first, and no directive of the title is about the source, the alt text or the title. -/
structure Head.Tame (source : String) (head : Head) : Prop where
  once : (Link.ofSource (Link.ofSource source false).source false).wrapper = none
  unkeyed : ∀ name ∈ ["src", "alt", "title"], head.Unkeyed name

theorem Link.source_of_unwrapped {source : String} {insideLink : Bool}
    (h : (ofSource source insideLink).wrapper = none) :
    (ofSource source insideLink).source = source := by
  unfold ofSource at h ⊢
  split at h
  · cases h
  · rfl

theorem Head.Quiet.tame {source : String} {head : Head} (quiet : head.Quiet source) :
    head.Tame source := by
  refine ⟨?_, ?_⟩
  · rw [Link.source_of_unwrapped quiet.unwrapped, quiet.unwrapped]
  · intro name _ directive mem
    rw [quiet.undirected] at mem
    cases mem

namespace Request

variable {settings : Settings} {head : Head} {insideLink : Bool} {request : Request}
  {derived : AttributeSet} {source : String}

/-- The alt text is read without markers afterwards. -/
theorem unmarked_merge (asked : ofHead? head insideLink = some request)
    (derives : request.derive = .ok derived) (unkeyed : head.Unkeyed "alt") :
    (Caption.ofAlt? ((request.merge .data derived head).attributes.text? "alt")).isMarked =
      false := by
  obtain ⟨-, -, -, caption, -⟩ := ofHead?_eq_some asked
  rw [alt_merge asked derives unkeyed]
  cases h : request.caption with
  | plain alt =>
    dsimp only
    rw [← caption, h]
    rfl
  | marked mode text =>
    dsimp only
    split
    · cases alt : head.attributes.text? "alt" with
      | none =>
        rw [alt, h] at caption
        cases caption
      | some alt' =>
        rw [alt, h] at caption
        exact Caption.isMarked_text caption.symm
    · rfl

/-- An element that stays what it is is settled afterwards. -/
theorem quiet_merge (asked : ofHead? head insideLink = some request)
    (derives : request.derive = .ok derived) (link : request.link = .ofSource source insideLink)
    (tame : head.Tame source) (unconverted : request.converts head.tag = false)
    (shown : (Link.ofSource source false).source ≠ "") :
    Head.Quiet (Link.ofSource source false).source
      { head with attributes := (request.merge .data derived head).attributes } := by
  have title := title_merge asked derives (tame.unkeyed _ (by decide))
  obtain ⟨-, -, -, -, -, media, -, titleText, parsed⟩ := ofHead?_eq_some asked
  have again := Title.parse?_text (head.attributes.text? "title")
  rw [← titleText, ← parsed, ← title] at again
  have unwrapped := source_merge asked derives link (tame.unkeyed _ (by decide))
  have unmarked := unmarked_merge asked derives (tame.unkeyed _ (by decide))
  refine ⟨tame.once, unmarked, again.2, again.1, ?_⟩
  have present :
      Head.source? { head with attributes := (request.merge .data derived head).attributes } =
        some (Link.ofSource source false).source := by
    rw [Head.source?, unwrapped, Option.filter_some, if_pos]
    simpa using shown
  rw [Head.converts, Head.media?, present, Option.map_some, Option.any_some,
    Link.source_of_unwrapped tame.once]
  rw [converts, media, link, Link.source_ofSource source insideLink] at unconverted
  simpa using unconverted

end Request

/-- An element that asked for everything at once is settled once it was handled. -/
theorem Visited.settled {settings : Settings} {old new : Head × List Node}
    (visited : Visited settings old new)
    (tame : ∀ source, old.1.source? = some source → old.1.Tame source) : new.1.Settled := by
  cases present : old.1.source? with
  | none =>
    rw [visited.eq_of_unasked present]
    intro source present'
    rw [present] at present'
    cases present'
  | some source =>
    have tame := tame source present
    obtain ⟨insideLink, request, derived, asked, derives, link, new_eq⟩ :=
      visited.eq_of_asked present
    have unwrapped := Request.source_merge asked derives link (tame.unkeyed _ (by decide))
    intro source' present'
    unfold Request.finish at new_eq
    split at new_eq
    · simp only [Request.player, Node.element.injEq] at new_eq
      rw [new_eq.1, Head.source?] at present'
      dsimp only at present'
      rw [request.source_player settings] at present'
      cases present'
    · rename_i unconverted
      rw [Node.element.injEq] at new_eq
      rw [new_eq.1] at present' ⊢
      simp only [Head.source?, unwrapped, Option.filter_eq_some_iff, Option.some.injEq] at present'
      obtain ⟨rfl, shown⟩ := present'
      exact Request.quiet_merge asked derives link tame (by simpa using unconverted)
        (by simpa using shown)

/-! ## Captions -/

/-- No directive of the title is about the alt text or the title itself. -/
structure Head.KeepsAlt (head : Head) : Prop where
  alt : head.Unkeyed "alt"
  title : head.Unkeyed "title"

/-- Without a directive about them, the alt text and the title are read at once: the element asks
for no caption any more. -/
theorem Visited.unasked {settings : Settings} {old new : Head × List Node}
    (visited : Visited settings old new) (keeps : old.1.KeepsAlt) :
    new.1.captionAsked? = none ∧ new.1.KeepsAlt := by
  cases present : old.1.source? with
  | none =>
    rw [visited.eq_of_unasked present]
    exact ⟨Head.captionAsked?_of_unasked present, keeps⟩
  | some source =>
    obtain ⟨insideLink, request, derived, asked, derives, link, new_eq⟩ :=
      visited.eq_of_asked present
    have unmarked := Request.unmarked_merge asked derives keeps.alt
    have title := Request.title_merge asked derives keeps.title
    have undirected : (Title.parse? request.title.text).directives = [] := by
      obtain ⟨-, -, -, -, -, -, -, -, parsed⟩ := Request.ofHead?_eq_some asked
      rw [parsed]
      exact (Title.parse?_text request.titleText).2
    have keeps' {head : Head} (same : head.attributes.text? "title" = request.title.text) :
        head.KeepsAlt := by
      have none : head.title.directives = [] := by rw [Head.title, same, undirected]
      constructor <;> simp [Head.Unkeyed, none]
    unfold Request.finish at new_eq
    split at new_eq
    · simp only [Request.player, Node.element.injEq] at new_eq
      rw [new_eq.1]
      refine ⟨Head.captionAsked?_of_unasked ?_, keeps' ?_⟩
      · rw [Head.source?, request.source_player settings]
        rfl
      · rw [request.text?_player settings _ (by decide), title]
    · rw [Node.element.injEq] at new_eq
      rw [new_eq.1]
      refine ⟨?_, keeps' title⟩
      unfold Head.captionAsked?
      cases Head.source? _ with
      | none => rfl
      | some source =>
        rw [Option.bind_some]
        generalize Caption.ofAlt? _ = caption at unmarked ⊢
        cases caption with
        | plain alt => rfl
        | marked mode text => cases unmarked

theorem Visited.unasked_of_transGen {settings : Settings} {old new : Head × List Node}
    (visited : Relation.TransGen (Visited settings) old new) (keeps : old.1.KeepsAlt) :
    new.1.captionAsked? = none ∧ new.1.KeepsAlt := by
  induction visited with
  | single visited => exact visited.unasked keeps
  | tail _ visited ih => exact visited.unasked ih.2

end MediaMarkup
