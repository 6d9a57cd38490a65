import MediaMarkup.Proofs.MergePolicy
import MediaMarkup.Proofs.Placement
import MediaMarkup.Proofs.TitleSource

/-!
What becomes of the attributes of a media element. Its source, alt text and title are revised in
their places, all at once (`Request.editAttributes_eq`), then the attributes of the title are merged
into what is left, and an image that becomes a player hands its source on to a child
(`Request.comesTo_finish`). Main statement: `attributes_of_media`.
-/

namespace MediaMarkup

/-! ## Revising attributes -/

namespace Title

/-- The caption of a title with directives: what stands before its first `>`, trimmed, unless that
is blank. -/
def caption? (title : String) : Option String :=
  let caption := Text.strip (title.toList.takeWhile (· ≠ '>'))
  if caption.isEmpty then none else some (.ofList caption)

theorem text_parse (title : String) :
    (parse title).text = if '>' ∈ title.toList then caption? title else some title := by
  have before := Text.cut_fst '>' title.toList
  have found := Text.isSome_cut '>' title.toList
  rcases cut : Text.cut '>' title.toList with ⟨caption, _ | text⟩
  · rw [cut, Option.isSome_none, eq_comm, decide_eq_false_iff_not] at found
    simp [parse, split, cut, found]
  · rw [cut, Option.isSome_some, eq_comm, decide_eq_true_eq] at found
    rw [cut] at before
    dsimp only at before
    rw [if_pos found, caption?, ← before]
    simp only [parse, split, cut]
    split <;> rfl

theorem caption?_ne {title : String} (mark : '>' ∈ title.toList) : caption? title ≠ some title := by
  intro same
  rw [caption?] at same
  split at same
  · cases same
  · have inside : '>' ∈ Text.strip (title.toList.takeWhile (· ≠ '>')) := by
      rw [Option.some.injEq] at same
      rwa [← same, String.toList_ofList] at mark
    have := List.mem_takeWhile_imp (Text.mem_of_mem_strip inside)
    simp at this

end Title

namespace Head

/-- What an alt text becomes: without its markers on an image that stays one, and nothing
elsewhere. -/
def altRevision (head : Head) (alt : Attribute) : Option Attribute :=
  match Caption.ofAlt? alt.text? with
  | .plain _ => some alt
  | .marked _ text =>
    if head.tag = Kind.image.tag ∧ head.converts = false then some (.text text) else none

/-- What a title becomes: its caption, if it has directives. -/
def titleRevision (title : Attribute) : Option Attribute :=
  match title.text? with
  | none => some title
  | some text => if '>' ∈ text.toList then (Title.caption? text).map .text else some title

/-- What an attribute becomes before the title's are merged. -/
def revision (source : String) (head : Head) (name : String) (value : Attribute) :
    Option Attribute :=
  if name = "src" then some (.text (Link.ofSource source false).source)
  else if name = "alt" then head.altRevision value
  else if name = "title" then titleRevision value
  else some value

/-- The attributes before the title's are merged into them. -/
def revised (source : String) (head : Head) : Attributes :=
  Entries.revise (head.revision source) head.attributes

end Head

namespace Attributes

variable {attributes : Attributes} {name text : String} {value : Attribute}

theorem text?_of_mem (distinct : (Entries.names attributes).Nodup)
    (mem : (name, value) ∈ attributes) : attributes.text? name = value.text? := by
  rw [text?, Entries.get?_of_mem distinct mem]
  rfl

theorem mem_names_of_text? (given : attributes.text? name = some text) :
    name ∈ Entries.names attributes := by
  obtain ⟨value, there, -⟩ := Option.bind_eq_some_iff.mp given
  rw [← Entries.isSome_get?, there]
  rfl

end Attributes

namespace Request

variable {head : Head} {insideLink : Bool} {request : Request} {source : String}
  {attributes : Attributes}

theorem editAlt_eq (asked : ofHead? head insideLink = some request)
    (distinct : (Entries.names attributes).Nodup)
    (kept : attributes.text? "alt" = head.attributes.text? "alt") :
    request.editAlt head.tag attributes =
      attributes.revise (Entries.under "alt" head.altRevision) := by
  obtain ⟨-, -, -, caption, -⟩ := ofHead?_eq_some asked
  rw [← kept] at caption
  have read {value : Attribute} (mem : ("alt", value) ∈ attributes) :
      Caption.ofAlt? value.text? = request.caption := by
    rw [caption, Attributes.text?_of_mem distinct mem]
  rw [editAlt, converts_eq asked]
  cases marks : request.caption with
  | plain alt =>
    refine (Entries.revise_under_of_some fun value mem => ?_).symm
    rw [Head.altRevision, read mem, marks]
  | marked mode text =>
    have given : "alt" ∈ Entries.names attributes := by
      cases alt : attributes.text? "alt" with
      | none =>
        rw [caption, alt] at marks
        cases marks
      | some alt => exact Attributes.mem_names_of_text? alt
    by_cases image : head.tag = Kind.image.tag ∧ head.converts = false
    · have stays : (decide (head.tag = Kind.image.tag) && !head.converts) = true := by
        simp [image]
      dsimp only
      rw [if_pos stays, Attributes.setText, Entries.put_eq_revise distinct given]
      refine Entries.revise_under_congr fun value mem => ?_
      rw [Head.altRevision, read mem, marks]
      exact (if_pos image).symm
    · have leaves : (decide (head.tag = Kind.image.tag) && !head.converts) = false := by
        simpa using image
      dsimp only
      rw [leaves, if_neg Bool.false_ne_true, Entries.erase_eq_revise]
      refine Entries.revise_under_congr fun value mem => ?_
      rw [Head.altRevision, read mem, marks]
      exact (if_neg image).symm

theorem editTitle_eq (asked : ofHead? head insideLink = some request)
    (distinct : (Entries.names attributes).Nodup)
    (kept : attributes.text? "title" = head.attributes.text? "title") :
    request.editTitle attributes =
      attributes.revise (Entries.under "title" Head.titleRevision) := by
  obtain ⟨-, -, -, -, -, -, -, titleText, parsed⟩ := ofHead?_eq_some asked
  rw [← kept] at titleText
  have read {value : Attribute} (mem : ("title", value) ∈ attributes) :
      value.text? = request.titleText := by
    rw [titleText, Attributes.text?_of_mem distinct mem]
  rw [editTitle, parsed]
  cases written : request.titleText with
  | none =>
    refine (if_pos rfl).trans (Entries.revise_under_of_some fun value mem => ?_).symm
    rw [Head.titleRevision, read mem, written]
  | some title =>
    rw [Title.parse?, Title.text_parse]
    by_cases mark : '>' ∈ title.toList
    · have given : "title" ∈ Entries.names attributes :=
        Attributes.mem_names_of_text? (titleText.symm.trans written)
      have revised {value : Attribute} (mem : ("title", value) ∈ attributes) :
          Head.titleRevision value = (Title.caption? title).map .text := by
        rw [Head.titleRevision, read mem, written]
        exact if_pos mark
      rw [if_pos mark, if_neg (Title.caption?_ne mark)]
      cases caption : Title.caption? title with
      | none =>
        dsimp only
        rw [Entries.erase_eq_revise]
        exact Entries.revise_under_congr fun value mem => by rw [revised mem, caption]; rfl
      | some text =>
        dsimp only
        rw [Attributes.setText, Entries.put_eq_revise distinct given]
        exact Entries.revise_under_congr fun value mem => by rw [revised mem, caption]; rfl
    · rw [if_neg mark, if_pos rfl]
      refine (Entries.revise_under_of_some fun value mem => ?_).symm
      rw [Head.titleRevision, read mem, written]
      exact if_neg mark

theorem link_eq (asked : ofHead? head insideLink = some request)
    (present : head.source? = some source) : request.link = .ofSource source insideLink := by
  obtain ⟨source', present', link⟩ := source?_of_asked asked
  obtain rfl : source = source' := Option.some.inj (present.symm.trans present')
  exact link

/-- **The attributes before the merge** are the old ones, each revised in its place. -/
theorem editAttributes_eq (asked : ofHead? head insideLink = some request)
    (present : head.source? = some source) (distinct : (Entries.names head.attributes).Nodup) :
    request.editAttributes head.tag head.attributes = head.revised source := by
  have given : "src" ∈ Entries.names head.attributes :=
    Attributes.mem_names_of_text? (Option.filter_eq_some_iff.mp present).1
  have distinct' : (Entries.names (head.attributes.setText "src" request.link.source)).Nodup :=
    Entries.nodup_put distinct
  have alt := editAlt_eq asked distinct' (Attributes.text?_setText_of_ne (by decide) _ _)
  have distinct'' : (Entries.names (request.editAlt head.tag
      (head.attributes.setText "src" request.link.source))).Nodup := by
    rw [alt]
    exact distinct'.sublist (Entries.names_revise_sublist _ _)
  have title := editTitle_eq asked distinct'' (by
    rw [text?_editAlt_of_ne _ (by decide), Attributes.text?_setText_of_ne (by decide)])
  rw [editAttributes, title, alt, Attributes.setText, Entries.put_eq_revise distinct given,
    Entries.revise_revise, Entries.revise_revise, Head.revised]
  apply Entries.revise_congr
  rintro name value -
  -- The three names differ, so that at most one of the revisions is about the attribute.
  rw [Head.revision, link_eq asked present, Link.source_ofSource source insideLink]
  by_cases isSrc : name = "src"
  · rw [isSrc, Entries.under_self, Entries.under_of_ne (by decide), Entries.under_of_ne (by decide)]
    rfl
  · rw [if_neg isSrc, Entries.under_of_ne isSrc, Option.bind_some]
    by_cases isAlt : name = "alt"
    · rw [isAlt, Entries.under_self, Entries.under_of_ne (by decide), if_pos rfl]
      exact Option.bind_fun_some _
    · rw [if_neg isAlt, Entries.under_of_ne isAlt]
      rfl

end Request

/-! ## What a media element comes to -/

theorem Style.merge_ne_bare (existing : Option Attribute) (declarations : Entries String) :
    Style.merge existing declarations ≠ .bare := by
  unfold Style.merge
  split <;> simp

namespace Attributes

/-- Every attribute was written with a value, as in plain data. -/
def AreWritten (attributes : Attributes) : Prop :=
  ∀ entry ∈ attributes, entry.2 ≠ .bare

/-- The attributes of a player, from those of the image: without its source and its alt text, and
with controls if they are to be added and are not there. -/
def ofPlayer (controls : Bool) (attributes : Attributes) : Attributes :=
  let kept := attributes.filter fun entry => entry.1 ≠ "src" ∧ entry.1 ≠ "alt"
  if controls ∧ "controls" ∉ Entries.names kept then kept ++ [("controls", .text "")] else kept

variable {attributes : Attributes} {set : AttributeSet} {name : String} {value : Derived}

theorem copied_of_areWritten (written : attributes.AreWritten) :
    attributes.copied = attributes := by
  have same : ∀ entry ∈ attributes, (entry.1, entry.2.copied) = entry := by
    rintro ⟨name, value⟩ mem
    cases value with
    | text | expression => rfl
    | bare => exact absurd rfl (written _ mem)
  exact (List.map_congr_left same).trans (List.map_id _)

theorem AreWritten.put (written : attributes.AreWritten) {value : Attribute} (new : value ≠ .bare) :
    AreWritten (Entries.put name value attributes) := by
  intro entry mem
  rcases Entries.mem_put mem with old | rfl
  · exact written entry old
  · exact new

theorem AreWritten.setText (written : attributes.AreWritten) (name text : String) :
    (attributes.setText name text).AreWritten :=
  written.put (by simp)

theorem AreWritten.erase (written : attributes.AreWritten) (name : String) :
    AreWritten (Entries.erase name attributes) :=
  fun entry mem => written entry (List.mem_filter.mp mem).1

theorem mergeValue_ne_bare {new : Attribute} (ok : mergeValue name value attributes = .ok new) :
    new ≠ .bare := by
  unfold mergeValue at ok
  split at ok
  · unfold mergeClass at ok
    split at ok <;> cases ok <;> simp
  · split at ok
    · cases value with
      | text | tokens => cases ok
      | declarations declarations =>
        cases ok
        exact Style.merge_ne_bare _ _
    · cases ok
      simp

/-- Values that are merged are written. -/
theorem AreWritten.merged (written : attributes.AreWritten)
    (works : (attributes.merge .data set).failure = none) : (attributes.merged set).AreWritten := by
  unfold Attributes.merged
  induction set generalizing attributes with
  | nil => exact written
  | cons entry rest ih =>
    obtain ⟨name, value⟩ := entry
    obtain ⟨next, step, attributes_eq, works'⟩ := merge_cons works
    rw [attributes_eq]
    rcases step with ⟨-, rfl⟩ | ⟨-, new, value_eq, rfl⟩
    · exact ih written works'
    · exact ih (written.put (mergeValue_ne_bare value_eq)) works'

end Attributes

namespace Head

/-- What a media element with a source comes to, without a tail. -/
def ComesTo (settings : Settings) (source : String) (head : Head) (children : List Node)
    (media : Node) : Prop :=
  ∃ derived, Title.collected (head.kindOf source) (head.attributes.text? "title") = .ok derived ∧
    let merged := (head.revised source).merged derived
    if head.converts then
      ∃ shown mime, merged.text? "src" = some shown ∧
        (Media.ofSource (Link.ofSource source false).source).mime = some mime ∧
        let attributes := merged.ofPlayer (settings.addsControls (head.kindOf source))
        media = .element { head with tag := head.kindOf source, attributes, text := "" }
          [.element (.new "source" [("src", .text shown), ("type", .text mime)] "") [] ""] ""
    else media = .element { head with attributes := merged } children ""

end Head

namespace Request

variable {head : Head} {insideLink : Bool} {request : Request} {source : String}
  {derived : AttributeSet}

theorem kind_eq (asked : ofHead? head insideLink = some request)
    (present : head.source? = some source) :
    request.kind = head.kindOf source ∧
      request.media = .ofSource (Link.ofSource source false).source := by
  obtain ⟨-, -, -, -, -, media, kind, -⟩ := ofHead?_eq_some asked
  rw [link_eq asked present, Link.source_ofSource source insideLink] at media
  rw [kind, Head.kindOf, media]
  exact ⟨rfl, rfl⟩

theorem areWritten_editAttributes (request : Request) (written : head.attributes.AreWritten) :
    (request.editAttributes head.tag head.attributes).AreWritten := by
  have alt : (request.editAlt head.tag
      (head.attributes.setText "src" request.link.source)).AreWritten := by
    unfold editAlt
    split
    · exact written.setText _ _
    · split
      · exact (written.setText _ _).setText _ _
      · exact (written.setText _ _).erase _
  unfold editAttributes editTitle
  split
  · exact alt
  · split
    · exact alt.erase _
    · exact alt.setText _ _

/-- A player has the attributes of its image. -/
theorem playerAttributes_eq (settings : Settings) (request : Request) {attributes : Attributes}
    (written : attributes.AreWritten) :
    request.playerAttributes settings attributes =
      attributes.ofPlayer (settings.addsControls request.kind) := by
  have kept : Entries.erase "alt" (Entries.erase "src" attributes) =
      attributes.filter fun entry => entry.1 ≠ "src" ∧ entry.1 ≠ "alt" := by
    rw [Entries.erase, Entries.erase, List.filter_filter]
    congr 1
    funext entry
    simp [Bool.and_comm]
  have copied := Attributes.copied_of_areWritten ((written.erase "src").erase "alt")
  rw [kept] at copied
  rw [playerAttributes, kept, copied, Attributes.ofPlayer]
  generalize (attributes.filter fun entry => entry.1 ≠ "src" ∧ entry.1 ≠ "alt" : Attributes) = kept
  have absent : (Entries.get? "controls" kept).isNone = true ↔ "controls" ∉ Entries.names kept := by
    rw [← Entries.isSome_get?]
    cases Entries.get? "controls" kept <;> simp
  by_cases new : "controls" ∉ Entries.names kept
  · simp [absent, new, Attributes.setText, Entries.put_of_notMem new]
  · simp [absent, new]

/-- **What a media element comes to** once it was handled. -/
theorem comesTo_finish (settings : Settings) (children : List Node)
    (asked : ofHead? head insideLink = some request) (present : head.source? = some source)
    (distinct : (Entries.names head.attributes).Nodup) (written : head.attributes.AreWritten)
    (derives : request.derive = .ok derived)
    (merges : (request.merge .data derived head).failure = none) :
    head.ComesTo settings source children (request.finish settings
      { head with attributes := (request.merge .data derived head).attributes } children) := by
  obtain ⟨kind, media⟩ := kind_eq asked present
  have derives' : Title.collected (head.kindOf source) (head.attributes.text? "title") =
      .ok derived := by
    obtain ⟨source', given, nonempty, same⟩ := Head.derive_eq asked
    have given' := (Option.filter_eq_some_iff.mp present).1
    obtain rfl : source = source' := Option.some.inj (given'.symm.trans given)
    rw [← same, derives]
  have merged_eq : (request.merge .data derived head).attributes =
      (head.revised source).merged derived := by
    rw [merge, editAttributes_eq asked present distinct, Attributes.merged]
  refine ⟨derived, derives', ?_⟩
  rw [finish, converts_eq asked, merged_eq]
  cases converts : head.converts with
  | false => rfl
  | true =>
    have written' := (areWritten_editAttributes request written).merged merges
    rw [editAttributes_eq asked present distinct] at written'
    have shown := source_written asked derives merges
    rw [Head.written?, Head.unwrapped?, present, Option.map_some, Option.map_some, merged_eq]
      at shown
    have player : request.media.kind ≠ .image := by
      rw [Head.converts, media?_of_asked asked, Option.any_some, Bool.and_eq_true,
        decide_eq_true_eq, decide_eq_true_eq] at converts
      exact converts.2
    rw [media] at player
    obtain ⟨mime, mime_eq⟩ := Media.mime_ofExtension _ player
    refine ⟨_, mime, shown, mime_eq, ?_⟩
    rw [if_pos rfl, Request.player, playerAttributes_eq settings request written', kind, media,
      Media.ofSource, mime_eq, sourceText, shown]
    rfl

end Request

/-! ## The other elements -/

namespace Node

mutual

/-- The heads of the elements of a node, in document order. -/
def heads : Node → List Head
  | .element head children _ => head :: headsAll children
  | _ => []

def headsAll : List Node → List Head
  | [] => []
  | node :: rest => heads node ++ headsAll rest

end

theorem headsAll_append (xs ys : List Node) : headsAll (xs ++ ys) = headsAll xs ++ headsAll ys := by
  induction xs with
  | nil => rfl
  | cons node xs ih => rw [List.cons_append, headsAll, headsAll, ih, List.append_assoc]

theorem heads_attach (frame : Frame) (node : Node) :
    (frame.attach node).heads =
      frame.head :: (headsAll frame.before ++ (node.heads ++ headsAll frame.after)) := by
  rw [Frame.attach, heads, headsAll_append, headsAll]

/-- More elements in a node are more in the document. -/
theorem heads_within_sublist {node node' : Node} (more : node.heads.Sublist node'.heads)
    (frames : List Frame) : (node.within frames).heads.Sublist (node'.within frames).heads := by
  induction frames generalizing node node' with
  | nil => exact more
  | cons frame frames ih =>
    apply ih
    rw [heads_attach, heads_attach]
    exact ((List.Sublist.refl _).append (more.append (.refl _))).cons_cons _

/-- So is a figcaption beside it. -/
theorem heads_within_addCaption_sublist {node node' : Node}
    (more : node.heads.Sublist node'.heads) (settings : Settings) (caption : Option Node)
    (outer : List Frame) :
    (node.within outer).heads.Sublist (node'.within (addCaption settings caption outer)).heads := by
  cases outer with
  | nil => exact more
  | cons frame outer =>
    refine heads_within_sublist ?_ outer
    rw [heads_attach, heads_attach, headsAll_append, headsAll_append]
    exact ((List.sublist_append_right _ _).append
      (more.append (List.sublist_append_left _ _))).cons_cons _

end Node

namespace Place

variable {settings : Settings} {place : Place} {index : Nat} {head : Head} {tail : String}
  {node : Node}

/-- Where the slot of a child is once it was handled. -/
def slotOf (settings : Settings) (index : Nat) (head : Head) (tail : String) (place : Place) :
    Nat :=
  (captionFront settings ((place.site tail).captionAt head 0)).length + index

theorem length_front (settings : Settings) (head : Head) (tail : String)
    (bound : index < place.children.length) :
    (captionFront settings ((place.site tail).captionAt head 0) ++
      place.children.take index).length = place.slotOf settings index head tail := by
  rw [List.length_append, List.length_take, Nat.min_eq_left (Nat.le_of_lt bound), slotOf]

theorem getElem?_filled (bound : index < place.children.length) :
    (place.filled settings index head tail node).children[
      place.slotOf settings index head tail]? = some node := by
  rw [← length_front settings head tail bound, filled]
  simp

theorem eraseIdx_filled (bound : index < place.children.length) :
    (place.filled settings index head tail node).children.eraseIdx
        (place.slotOf settings index head tail) =
      captionFront settings ((place.site tail).captionAt head 0) ++
        (place.children.eraseIdx index ++
          captionBack settings ((place.site tail).captionAt head 0)) := by
  rw [← length_front settings head tail bound, filled,
    List.eraseIdx_append_of_length_le (Nat.le_refl _), Nat.sub_self, List.eraseIdx_cons_zero,
    List.eraseIdx_eq_take_drop_succ]
  simp

/-- All elements but those in the slot keep their heads. -/
theorem heads_removeChild_sublist (bound : index < place.children.length) :
    (place.removeChild index).root.heads.Sublist
      ((place.filled settings index head tail node).removeChild
        (place.slotOf settings index head tail)).root.heads := by
  set filled := place.filled settings index head tail node with filled_eq
  set slot := place.slotOf settings index head tail with slot_eq
  have children_eq : (filled.removeChild slot).children = _ := eraseIdx_filled bound
  have parent : (place.removeChild index).node.heads.Sublist
      (filled.removeChild slot).node.heads := by
    rw [Place.node, Place.node, Node.heads, Node.heads, children_eq, Node.headsAll_append,
      Node.headsAll_append]
    refine List.Sublist.cons_cons _ ?_
    exact (List.sublist_append_left _ _).trans (List.sublist_append_right _ _)
  -- The link around the parent, if there is one, is the innermost frame.
  have linked : (place.removeChild index).node.heads.Sublist
      ((filled.removeChild slot).node.within (((place.site tail).figureLink? head).map fun href =>
        Frame.mk (anchor href) [] [] place.tail).toList).heads := by
    cases (place.site tail).figureLink? head with
    | none => exact parent
    | some href =>
      refine parent.trans ?_
      show List.Sublist _ (Frame.attach _ ⟨anchor href, [], [], place.tail⟩).heads
      rw [Node.heads_attach, Node.headsAll, List.nil_append, List.append_nil]
      exact List.sublist_cons_self _ _
  have outer_eq : (filled.removeChild slot).outer =
      (((place.site tail).figureLink? head).map fun href =>
        Frame.mk (anchor href) [] [] place.tail).toList ++
        addCaption settings ((place.site tail).captionAt head 1) place.outer := rfl
  rw [root, root, outer_eq, Node.within, Node.within, List.foldl_append]
  exact Node.heads_within_addCaption_sublist linked settings _ place.outer

end Place

/-- **The attributes of a media element.** A call of the visitor for an element with a source that
does not fail, with the chain above the element as its ancestors, leaves what the element comes to
in its wrapping. All other elements of the document keep their attributes. -/
theorem attributes_of_media (settings : Settings) (place : Place) (events : List Event)
    {index : Nat} {head : Head} {inner : List Node} {tail source : String} {found : Option Nat}
    {next : Walk (List Event)} (here : place.children[index]? = some (.element head inner tail))
    (present : head.source? = some source) (distinct : (Entries.names head.attributes).Nodup)
    (written : head.attributes.AreWritten)
    (called : Enrich.visitor .data settings ⟨place, place.chain, events⟩ index =
      .ok (found, next)) :
    ∃ media position, found = some position ∧ head.ComesTo settings source inner media ∧
      next.place.children[position]? =
        some ((((place.site tail).wrapping head).around settings.captionsAbove media).withTail
          tail) ∧
      (place.removeChild index).root.heads.Sublist
        (next.place.removeChild position).root.heads := by
  obtain ⟨change, done⟩ := place.exists_change here called
  have handled := Change.ofElement_handled done
  obtain ⟨next', called', placed⟩ := place.visitor_of_ok events here done
  obtain ⟨rfl, rfl⟩ : found = _ ∧ next = next' := by
    simpa using called.symm.trans called'
  have bound := (List.getElem?_eq_some_iff.mp here).1
  have comesTo : head.ComesTo settings source inner change.media := by
    cases handled with
    | untouched unasked =>
      rw [Request.source?_of_unasked unasked] at present
      cases present
    | changed asked derives merges finishes =>
      obtain rfl := finishes.eq_finish
      exact Request.comesTo_finish settings inner asked present distinct written derives merges
  refine ⟨change.media, place.slotOf settings index head tail, rfl, comesTo, ?_, ?_⟩
  · rw [placed, handled.slot_eq]
    exact Place.getElem?_filled bound
  · rw [placed]
    exact Place.heads_removeChild_sublist bound

/-- An image of a video in a wrapper, with a marked alt text and a title that gives it a class and
another source. -/
def clipImage : Head :=
  .new Kind.image.tag [("id", .text "sea"), ("src", .text "[clip.mp4]"),
    ("title", .text " Waves > class=wide src=big.mp4 lazy"), ("alt", .text "^At sea"),
    ("class", .text "a")] "text"

/-- Two images in a section. -/
def clipPlace : Place :=
  ⟨.new "section" [] "", [Node.picture "x.png" "y", .element clipImage [] "behind"], "", []⟩

/-- It becomes a player with controls, whose source is the one that the title gives, of the type of
the one that the image had. -/
theorem attributes_of_media_clipImage :
    let settings : Settings := { Settings.default with videoControls := true }
    ∃ next media, Enrich.visitor .data settings ⟨clipPlace, clipPlace.chain, []⟩ 1 =
        .ok (some 1, next) ∧
      clipImage.ComesTo settings "[clip.mp4]" [] media ∧
      media.tag? = some "video" ∧
      media.head?.map (·.attributes.map fun entry => (entry.1, entry.2.text?)) =
        some [("id", some "sea"), ("title", some "Waves"), ("class", some "a wide"),
          ("loading", some "lazy"), ("controls", some "")] ∧
      media.children = [sourceElement "big.mp4" (some "video/mp4")] ∧
      (clipPlace.removeChild 1).root.heads.Sublist (next.place.removeChild 1).root.heads := by
  intro settings
  have answers : (Enrich.visitor .data settings ⟨clipPlace, clipPlace.chain, []⟩ 1).toOption.map
      Prod.fst = some (some 1) := by decide +kernel
  rcases called : Enrich.visitor .data settings ⟨clipPlace, clipPlace.chain, []⟩ 1 with
    failed | ⟨found, next⟩
  · rw [called] at answers
    cases answers
  rw [called] at answers
  obtain rfl : found = some 1 := Option.some.inj answers
  have here : clipPlace.children[1]? = some (.element clipImage [] "behind") := rfl
  have written : clipImage.attributes.AreWritten := by
    simp [Attributes.AreWritten, clipImage, Head.new]
  obtain ⟨media, position, position_eq, comesTo, -, others⟩ :=
    attributes_of_media settings clipPlace [] here
      (by decide +kernel : clipImage.source? = some "[clip.mp4]") (by decide) written called
  obtain rfl : 1 = position := Option.some.inj position_eq
  refine ⟨next, media, rfl, comesTo, ?_⟩
  obtain ⟨derived, collects, comes⟩ := comesTo
  have derived_eq : Title.collected (clipImage.kindOf "[clip.mp4]")
      (clipImage.attributes.text? "title") =
        .ok [("class", .tokens ["wide"]), ("src", .text "big.mp4"), ("loading", .text "lazy")] := by
    decide +kernel
  obtain rfl := Except.ok.inj (derived_eq.symm.trans collects)
  have converts : clipImage.converts = true := by decide +kernel
  dsimp only at comes
  rw [if_pos converts] at comes
  obtain ⟨shown, mime, shown_eq, mime_eq, rfl⟩ := comes
  have source : shown = "big.mp4" := Option.some.inj (shown_eq.symm.trans (by decide +kernel))
  have type : mime = "video/mp4" := Option.some.inj (mime_eq.symm.trans (by decide +kernel))
  subst source type
  exact ⟨by decide +kernel, by decide +kernel, rfl, others⟩

end MediaMarkup
