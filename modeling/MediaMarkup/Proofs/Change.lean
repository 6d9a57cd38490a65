import MediaMarkup.Enrich.Change

/-!
What a change of a media element can be, in every format (`ofElement_handled`): the new elements
around a media element follow from its plan alone (`restructure_eq`), and the format has a say in
its attributes only. In plain data no text is refused, so a change fails there only where the
title's attributes cannot be collected or merged (`ofElement_of_asked`).
-/

namespace MediaMarkup

theorem Format.checkTexts_data (texts : List String) : Format.checkTexts .data texts = .ok () := by
  induction texts with
  | nil => rfl
  | cons text texts ih => exact ih

/-! ## The finished element -/

namespace Request

/-- The request of an element with a source, in the terms of its attributes. -/
theorem ofHead?_eq_some {head : Head} {insideLink : Bool} {request : Request}
    (h : ofHead? head insideLink = some request) :
    ∃ source, head.attributes.text? "src" = some source ∧ source ≠ "" ∧
      request.caption = .ofAlt? (head.attributes.text? "alt") ∧
      request.link = .ofSource source insideLink ∧
      request.media = .ofSource request.link.source ∧
      request.kind =
        (if head.tag = Kind.image.tag then request.media.kind.tag else head.tag) ∧
      request.titleText = head.attributes.text? "title" ∧
      request.title = .parse? request.titleText := by
  unfold ofHead? at h
  cases present : head.attributes.text? "src" with
  | none => simp [present] at h
  | some source =>
    simp only [present, Option.ite_none_left_eq_some, Option.some.injEq] at h
    obtain ⟨nonempty, rfl⟩ := h
    refine ⟨source, rfl, ?_, rfl, rfl, rfl, rfl, rfl, rfl⟩
    rintro rfl
    exact nonempty rfl

/-- Inside a link no link is asked for. -/
theorem insideLink_of_href {head : Head} {insideLink : Bool} {request : Request} {href : String}
    (h : ofHead? head insideLink = some request) (asks : request.link.href = some href) :
    insideLink = false := by
  obtain ⟨source, -, -, -, link, -⟩ := ofHead?_eq_some h
  cases insideLink with
  | false => rfl
  | true =>
    rw [link, Link.ofSource] at asks
    split at asks <;> simp at asks

/-- The plan for the element of a request at its site. -/
def plan (request : Request) (site : Site) : Plan :=
  Plan.make request.caption site.surroundings site.captioned request.link request.kind

/-- The attributes of an image that becomes a player. -/
def playerAttributes (settings : Settings) (request : Request) (attributes : Attributes) :
    Attributes :=
  let kept := Attributes.copied (Entries.erase "alt" (Entries.erase "src" attributes))
  if settings.addsControls request.kind && (kept.get? "controls").isNone then
    kept.setText "controls" ""
  else kept

/-- An image turned into a player. -/
def player (settings : Settings) (request : Request) (head : Head) : Node :=
  let attributes := request.playerAttributes settings head.attributes
  .element { head with tag := request.kind, attributes, text := "" }
    [sourceElement (sourceText head.attributes) request.media.mime] ""

theorem convertedAttributes_data (settings : Settings) (request : Request)
    (attributes : Attributes) :
    convertedAttributes .data (settings.addsControls request.kind) attributes =
      .ok (request.playerAttributes settings attributes) := by
  simp only [convertedAttributes, Format.copy_data, playerAttributes, bind, Except.bind]
  split <;> rfl

theorem convert_data (settings : Settings) (request : Request) (tail : String) (head : Head) :
    convert .data settings request tail head = .ok (request.player settings head) := by
  simp only [convert, convertedAttributes_data, Format.checkText_data, player]
  rfl

/-- A media element whose attributes are complete, converted if it has to be. -/
def finish (settings : Settings) (request : Request) (head : Head) (children : List Node) : Node :=
  if request.converts head.tag then request.player settings head
  else .element head children ""

/-- What becomes of a media element whose attributes are complete: it stays as it is, or it becomes
a player with the attributes that it keeps. -/
inductive Finishes (format : Format) (settings : Settings) (request : Request) (head : Head)
    (children : List Node) : Node → Prop
  | stays (same : request.converts head.tag = false) :
    Finishes format settings request head children (.element head children "")
  | plays {attributes : Attributes} (converts : request.converts head.tag = true)
    (kept : convertedAttributes format (settings.addsControls request.kind) head.attributes =
      .ok attributes) :
    Finishes format settings request head children
      (.element { head with tag := request.kind, attributes, text := "" }
        [sourceElement (sourceText head.attributes) request.media.mime] "")

theorem Finishes.eq_finish {settings : Settings} {request : Request} {head : Head}
    {children : List Node} {media : Node}
    (finishes : request.Finishes .data settings head children media) :
    media = request.finish settings head children := by
  cases finishes with
  | stays same => rw [finish, same]; rfl
  | plays converts kept =>
    rw [convertedAttributes_data, Except.ok.injEq] at kept
    rw [finish, if_pos converts, player, kept]

theorem finishes_of_convert {format : Format} {settings : Settings} {request : Request}
    {tail : String} {head : Head} {children : List Node} {media : Node}
    (converts : request.converts head.tag = true)
    (done : convert format settings request tail head = .ok media) :
    request.Finishes format settings head children media := by
  cases kept : convertedAttributes format (settings.addsControls request.kind) head.attributes with
  | error cause => simp [convert, kept, bind, Except.bind] at done
  | ok attributes =>
    simp only [convert, kept, bind, Except.bind, pure, Except.pure] at done
    split at done
    · cases done
    · cases done
      exact .plays converts kept

/-- The attributes before the title's are merged into them, and then those. -/
def merge (format : Format) (request : Request) (derived : AttributeSet) (head : Head) :
    Attributes.Merged :=
  (request.editAttributes head.tag head.attributes).merge format derived

end Request

/-! ## The new elements -/

namespace Plan

theorem href_of_make {caption : Caption} {surroundings : Surroundings} {captioned : Bool}
    {link : Link} {kind href : String}
    (h : (make caption surroundings captioned link kind).href = some href) :
    link.href = some href := by
  simp only [make, Option.ite_none_right_eq_some] at h
  exact h.2

/-- The link around the media element itself. -/
def mediaLink (plan : Plan) (surroundings : Surroundings) (linkable : Bool) : Option Head :=
  if plan.linkOutside && (plan.figure || surroundings.insideFigure && linkable) then none
  else plan.href.map anchor

/-- The link around the figure that the plan adds. -/
def figureLink (plan : Plan) : Option Head :=
  if plan.linkOutside then plan.href.map anchor else none

/-- The new elements around the media element, innermost first. -/
def shells (settings : Settings) (plan : Plan) (surroundings : Surroundings) (linkable : Bool) :
    List Frame :=
  (plan.mediaLink surroundings linkable).toList.map shell ++
    if plan.figure then
      figureShell settings plan.figcaption :: plan.figureLink.toList.map shell
    else []

/-- The caption for the figure that was there before. -/
def addedCaption (plan : Plan) (surroundings : Surroundings) : Option Node :=
  if !plan.figure && surroundings.insideFigure then plan.figcaption.map MediaMarkup.figcaption
  else none

/-- The link around the figure that was there before. -/
def parentLink (plan : Plan) (surroundings : Surroundings) (linkable : Bool) : Option Head :=
  if !plan.figure && surroundings.insideFigure && linkable then plan.figureLink else none

end Plan

/-- A new element around a media element: a link or a figure, with nothing else in it than
figcaptions. -/
structure Frame.IsShell (frame : Frame) : Prop where
  tag : frame.head.tag = "a" ∨ frame.head.tag = "figure"
  text : frame.head.text = ""
  tail : frame.tail = ""
  figcaptions : ∀ node ∈ frame.before ++ frame.after, ∃ text, node = figcaption text

theorem shell_anchor_isShell (href : String) : (shell (anchor href)).IsShell :=
  ⟨.inl rfl, rfl, rfl, by simp [shell]⟩

theorem figureShell_isShell (settings : Settings) (caption : Option String) :
    (figureShell settings caption).IsShell := by
  have figcaptions : ∀ node ∈ (caption.map figcaption).toList, ∃ text, node = figcaption text := by
    intro node mem
    obtain ⟨text, -, same⟩ : ∃ text, caption = some text ∧ figcaption text = node := by
      simpa using mem
    exact ⟨text, same.symm⟩
  unfold figureShell
  split
  · refine ⟨.inr rfl, rfl, rfl, ?_⟩
    rwa [List.append_nil]
  · exact ⟨.inr rfl, rfl, rfl, figcaptions⟩

/-- The new elements around a media element are links and figures. -/
theorem Plan.mem_shells {settings : Settings} {plan : Plan} {surroundings : Surroundings}
    {linkable : Bool} {frame : Frame} (h : frame ∈ plan.shells settings surroundings linkable) :
    (∃ href, frame = shell (anchor href)) ∨ ∃ caption, frame = figureShell settings caption := by
  have anchors : ∀ link ∈ plan.href.map anchor, ∃ href, shell link = shell (anchor href) := by
    rintro link h
    obtain ⟨href, -, rfl⟩ := Option.map_eq_some_iff.mp h
    exact ⟨href, rfl⟩
  simp only [shells, mediaLink, figureLink, List.mem_append, List.mem_map, Option.mem_toList] at h
  rcases h with ⟨link, h, rfl⟩ | h
  · split at h
    · simp at h
    · exact .inl (anchors link h)
  · split at h
    · simp only [List.mem_cons, List.mem_map, Option.mem_toList] at h
      rcases h with rfl | ⟨link, h, rfl⟩
      · exact .inr ⟨plan.figcaption, rfl⟩
      · split at h
        · exact .inl (anchors link h)
        · simp at h
    · simp at h

theorem Plan.shells_isShell (settings : Settings) (plan : Plan) (surroundings : Surroundings)
    (linkable : Bool) : ∀ frame ∈ plan.shells settings surroundings linkable, frame.IsShell := by
  intro frame h
  rcases Plan.mem_shells h with ⟨href, rfl⟩ | ⟨caption, rfl⟩
  · exact shell_anchor_isShell href
  · exact figureShell_isShell settings caption

/-- What frames of a kind keep is kept from a node to the node inside them. -/
theorem Node.within_shells {motive : Node → Prop} {P : Frame → Prop} {shells : List Frame}
    {node : Node} (isShell : ∀ frame ∈ shells, P frame)
    (attach : ∀ (frame : Frame) (node : Node), P frame → motive node → motive (frame.attach node))
    (inner : motive node) : motive (node.within shells) := by
  induction shells generalizing node with
  | nil => exact inner
  | cons frame shells ih =>
    have outer : motive (frame.attach node) :=
      attach frame node (isShell frame List.mem_cons_self) inner
    exact ih (fun frame h => isShell frame (List.mem_cons_of_mem _ h)) outer

namespace Change

/-- A change as a plan asks for it, whatever is reported. -/
theorem restructure_eq (settings : Settings) (plan : Plan) (surroundings : Surroundings)
    (linkable : Bool) (tag : String) (media : Node) :
    ∃ events, restructure settings plan surroundings linkable tag media =
      ⟨media, plan.shells settings surroundings linkable, plan.addedCaption surroundings,
        plan.parentLink surroundings linkable, events⟩ := by
  obtain ⟨figure, caption, href, outside⟩ := plan
  unfold restructure linkShells figureShells outerLink Plan.shells Plan.addedCaption
    Plan.parentLink Plan.mediaLink Plan.figureLink
  cases figure <;> cases h : surroundings.insideFigure <;> cases href <;> cases outside <;>
    cases linkable <;> exact ⟨_, rfl⟩

/-! ## Handling an element -/

/-- What becomes of a media element at a site if nothing fails. -/
inductive Handled (format : Format) (settings : Settings) (site : Site) (head : Head)
    (children : List Node) : Change → Prop
  /-- Without a source nothing happens. -/
  | untouched (unasked : Request.ofHead? head site.surroundings.insideLink = Option.none) :
    Handled format settings site head children (.none head children)
  | changed {request : Request} {derived : AttributeSet} {media : Node} {events : List Event}
    (asked : Request.ofHead? head site.surroundings.insideLink = some request)
    (derives : request.derive = .ok derived)
    (merges : (request.merge format derived head).failure = Option.none)
    (finishes : request.Finishes format settings
      { head with attributes := (request.merge format derived head).attributes } children media) :
    Handled format settings site head children
      ⟨media, (request.plan site).shells settings site.surroundings site.linkable,
        (request.plan site).addedCaption site.surroundings,
        (request.plan site).parentLink site.surroundings site.linkable, events⟩

theorem settle_ok {format : Format} {settings : Settings} {plan : Plan} {site : Site} {tag : String}
    {media : Node} {events : List Event} {change : Change}
    (done : settle format settings plan site tag media events = .ok change) :
    ∃ events', change = ⟨media, plan.shells settings site.surroundings site.linkable,
      plan.addedCaption site.surroundings, plan.parentLink site.surroundings site.linkable,
      events'⟩ := by
  obtain ⟨more, planned⟩ := restructure_eq settings plan site.surroundings site.linkable tag media
  simp only [settle, planned] at done
  split at done
  · cases done
  · cases done
    exact ⟨events ++ more, rfl⟩

theorem complete_ok {format : Format} {settings : Settings} {request : Request} {plan : Plan}
    {site : Site} {head : Head} {children : List Node} {change : Change}
    (done : complete format settings request plan site head children = .ok change) :
    ∃ media events, request.Finishes format settings head children media ∧
      change = ⟨media, plan.shells settings site.surroundings site.linkable,
        plan.addedCaption site.surroundings, plan.parentLink site.surroundings site.linkable,
        events⟩ := by
  unfold complete at done
  split at done
  · rename_i converts
    split at done
    · cases done
    · rename_i media converted
      obtain ⟨events, rfl⟩ := settle_ok done
      exact ⟨media, events, Request.finishes_of_convert converts converted, rfl⟩
  · rename_i stays
    obtain ⟨events, rfl⟩ := settle_ok done
    exact ⟨_, events, .stays (Bool.eq_false_iff.mpr stays), rfl⟩

/-- An element is handled without failure only as `Handled` says. -/
theorem ofElement_handled {format : Format} {settings : Settings} {site : Site} {head : Head}
    {children : List Node} {change : Change}
    (done : ofElement format settings site head children = .ok change) :
    Handled format settings site head children change := by
  cases asked : Request.ofHead? head site.surroundings.insideLink with
  | none =>
    simp only [ofElement, asked, Except.ok.injEq] at done
    exact done ▸ .untouched asked
  | some request =>
    cases derives : request.derive with
    | error cause => simp [ofElement, asked, derives] at done
    | ok derived =>
      simp only [ofElement, asked, derives, carryOut] at done
      split at done
      · cases done
      · split at done
        · cases done
        · rename_i merges
          split at done
          · cases done
          · rename_i completed
            obtain ⟨media, events, finishes, rfl⟩ := complete_ok completed
            cases done
            exact .changed asked derives merges finishes

/-- How the handling of a media element fails, and the head that it leaves: nothing is edited before
the title's attributes are collected and the texts of the edits are checked, and what is edited and
merged by then stays. -/
inductive Refused (format : Format) (settings : Settings) (site : Site) (head : Head)
    (children : List Node) : Failure → Prop
  | collecting {request : Request} {cause : TitleError} {events : List Event}
    (asked : Request.ofHead? head site.surroundings.insideLink = some request)
    (fails : request.derive = .error cause) :
    Refused format settings site head children ⟨.title cause, head, events⟩
  | editing {request : Request} {derived : AttributeSet} {cause : FormatError}
    {events : List Event}
    (asked : Request.ofHead? head site.surroundings.insideLink = some request)
    (derives : request.derive = .ok derived)
    (refuses : format.checkTexts (request.writes head.tag) = .error cause) :
    Refused format settings site head children ⟨.format cause, head, events⟩
  | merging {request : Request} {derived : AttributeSet} {cause : MergeError}
    {events : List Event}
    (asked : Request.ofHead? head site.surroundings.insideLink = some request)
    (derives : request.derive = .ok derived)
    (fails : (request.merge format derived head).failure = some cause) :
    Refused format settings site head children
      ⟨.merge cause, { head with attributes := (request.merge format derived head).attributes },
        events⟩
  | completing {request : Request} {derived : AttributeSet} {cause : FormatError}
    {events more : List Event}
    (asked : Request.ofHead? head site.surroundings.insideLink = some request)
    (derives : request.derive = .ok derived)
    (merges : (request.merge format derived head).failure = Option.none)
    (refuses : complete format settings request (request.plan site) site
      { head with attributes := (request.merge format derived head).attributes } children =
        .error (cause, more)) :
    Refused format settings site head children
      ⟨.format cause, { head with attributes := (request.merge format derived head).attributes },
        events⟩

/-- An element fails to be handled only as `Refused` says. -/
theorem ofElement_refused {format : Format} {settings : Settings} {site : Site} {head : Head}
    {children : List Node} {failure : Failure}
    (failed : ofElement format settings site head children = .error failure) :
    Refused format settings site head children failure := by
  cases asked : Request.ofHead? head site.surroundings.insideLink with
  | none => simp [ofElement, asked] at failed
  | some request =>
    cases derives : request.derive with
    | error cause =>
      simp only [ofElement, asked, derives, Except.error.injEq] at failed
      exact failed ▸ .collecting asked derives
    | ok derived =>
      simp only [ofElement, asked, derives, carryOut] at failed
      split at failed
      · rename_i refuses
        cases failed
        exact .editing asked derives refuses
      · split at failed
        · rename_i fails
          cases failed
          exact .merging asked derives fails
        · rename_i merges
          split at failed
          · rename_i refuses
            cases failed
            exact .completing asked derives merges refuses
          · cases failed

/-- A failure leaves an element as it was but for its attributes. -/
theorem Refused.head_eq {format : Format} {settings : Settings} {site : Site} {head : Head}
    {children : List Node} {failure : Failure}
    (refused : Refused format settings site head children failure) :
    ∃ attributes, failure.head = { head with attributes } := by
  cases refused <;> exact ⟨_, rfl⟩

/-! ### Plain data -/

theorem complete_data (settings : Settings) (request : Request) (plan : Plan) (site : Site)
    (head : Head) (children : List Node) :
    ∃ change, complete .data settings request plan site head children = .ok change := by
  unfold complete settle
  simp only [Request.convert_data, Format.checkTexts_data]
  split <;> exact ⟨_, rfl⟩

/-- The texts around an element have no part in what is made of it. -/
theorem ofElement_texts (settings : Settings) {surroundings : Surroundings}
    {captioned linkable : Bool} {tail figureTail : String} (head : Head) (children : List Node) :
    ofElement .data settings ⟨surroundings, captioned, linkable, tail, figureTail⟩ head children =
      ofElement .data settings ⟨surroundings, captioned, linkable, "", ""⟩ head children := by
  simp only [ofElement, carryOut, complete, settle, Request.convert_data, Format.checkTexts_data]

/-- An element whose title's attributes can be collected and merged is handled without failure. -/
theorem ofElement_of_asked {settings : Settings} {site : Site} {head : Head}
    {children : List Node} {request : Request} {derived : AttributeSet}
    (asked : Request.ofHead? head site.surroundings.insideLink = some request)
    (derives : request.derive = .ok derived)
    (merges : (request.merge .data derived head).failure = Option.none) :
    ∃ events, ofElement .data settings site head children =
      .ok ⟨request.finish settings
          { head with attributes := (request.merge .data derived head).attributes } children,
        (request.plan site).shells settings site.surroundings site.linkable,
        (request.plan site).addedCaption site.surroundings,
        (request.plan site).parentLink site.surroundings site.linkable, events⟩ := by
  obtain ⟨change, completed⟩ := complete_data settings request (request.plan site) site
    { head with attributes := (request.merge .data derived head).attributes } children
  obtain ⟨media, events, finishes, rfl⟩ := complete_ok completed
  obtain rfl := finishes.eq_finish
  simp only [Request.merge] at merges completed
  simp only [Request.plan] at completed
  simp only [ofElement, asked, derives, carryOut, Format.checkTexts_data, merges, completed,
    withEvents]
  exact ⟨_, rfl⟩

namespace Handled

variable {format : Format} {settings : Settings} {site : Site} {head : Head}
  {children : List Node} {change : Change}

/-- The texts around an element have no part in what becomes of it. -/
theorem of_texts {surroundings : Surroundings} {captioned linkable : Bool}
    {tail figureTail : String}
    (handled : Handled format settings ⟨surroundings, captioned, linkable, tail, figureTail⟩ head
      children change) :
    Handled format settings ⟨surroundings, captioned, linkable, "", ""⟩ head children change := by
  cases handled with
  | untouched unasked => exact .untouched unasked
  | changed asked derives merges finishes => exact .changed asked derives merges finishes

/-- Only a figure that is in no link and has a parent gets a link around it. -/
theorem parentLink_eq {link : Head} (handled : Handled format settings site head children change)
    (h : change.parentLink = some link) :
    site.surroundings = .figure ∧ site.linkable = true ∧ ∃ href, link = anchor href := by
  cases handled with
  | untouched => cases h
  | @changed request derived media events asked derives merges finishes =>
    simp only [Plan.parentLink, Plan.figureLink, Option.ite_none_right_eq_some,
      Bool.and_eq_true, Option.map_eq_some_iff] at h
    obtain ⟨⟨⟨_, inFigure⟩, linkable⟩, _, href, hrefs, rfl⟩ := h
    refine ⟨?_, linkable, href, rfl⟩
    have outside : site.surroundings.insideLink = false :=
      Request.insideLink_of_href asked (Plan.href_of_make hrefs)
    revert inFigure outside
    cases site.surroundings <;> decide

/-- The new elements around a media element are shells. -/
theorem isShell (handled : Handled format settings site head children change) :
    ∀ frame ∈ change.shells, frame.IsShell := by
  cases handled with
  | untouched => simp [none]
  | changed => exact Plan.shells_isShell _ _ _ _

/-- The new elements around a media element are links and figures. -/
theorem mem_shells (handled : Handled format settings site head children change) {frame : Frame}
    (h : frame ∈ change.shells) :
    (∃ href, frame = shell (anchor href)) ∨ ∃ caption, frame = figureShell settings caption := by
  cases handled with
  | untouched => cases h
  | changed => exact Plan.mem_shells h

/-- What stands in the slot has no tail yet. -/
theorem slot_tail (handled : Handled format settings site head children change) :
    change.slot.tail = "" := by
  have media_tail : change.media.tail = "" := by
    cases handled with
    | untouched => rfl
    | changed _ _ _ finishes => cases finishes <;> rfl
  exact Node.within_shells (motive := fun node => node.tail = "") handled.isShell
    (fun _ _ isShell _ => isShell.tail) media_tail

/-- A media element stays one. -/
theorem media_eq (handled : Handled format settings site head children change)
    (isMedia : head.tag ∈ Media.tags) :
    ∃ head' children', change.media = .element head' children' "" ∧ head'.tag ∈ Media.tags := by
  cases handled with
  | untouched => exact ⟨head, children, rfl, isMedia⟩
  | @changed request derived media events asked derives merges finishes =>
    cases finishes with
    | stays => exact ⟨_, _, rfl, isMedia⟩
    | plays =>
      refine ⟨_, _, rfl, ?_⟩
      obtain ⟨-, -, -, -, -, -, kind, -⟩ := Request.ofHead?_eq_some asked
      simp only [kind]
      split
      · cases request.media.kind <;> decide
      · exact isMedia

/-- A figure gets a caption only if it has none. -/
theorem figcaption_eq {caption : Node} (handled : Handled format settings site head children change)
    (h : change.figcaption = some caption) :
    site.surroundings.insideFigure = true ∧ site.captioned = false ∧
      ∃ text, caption = MediaMarkup.figcaption text := by
  cases handled with
  | untouched => cases h
  | @changed request derived media events asked derives merges finishes =>
    simp only [Plan.addedCaption, Option.ite_none_right_eq_some, Bool.and_eq_true,
      Option.map_eq_some_iff] at h
    obtain ⟨⟨_, inFigure⟩, text, texts, rfl⟩ := h
    refine ⟨inFigure, ?_, text, rfl⟩
    simp only [Request.plan, Plan.make, inFigure, Bool.true_and,
      Option.ite_none_left_eq_some] at texts
    simpa using texts.1

end Handled

end Change

end MediaMarkup
