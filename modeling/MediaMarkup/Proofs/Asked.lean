import MediaMarkup.Proofs.Change

/-!
What a media element asks for, read off its head alone: a caption (`Head.captionAsked?`), a link
(`Head.linkAsked?`), or to become a player (`Head.converts`). Where the element stands then decides
which captions and links a change adds.
-/

namespace MediaMarkup

namespace Head

/-- The source of a media element; an empty one is none. -/
def source? (head : Head) : Option String :=
  (head.attributes.text? "src").filter (fun source => !source.isEmpty)

/-- What the source shows without its wrapper. -/
def media? (head : Head) : Option Media :=
  head.source?.map fun source => .ofSource (Link.ofSource source false).source

/-- Whether the element is an image that has to become a player. -/
def converts (head : Head) : Bool :=
  decide (head.tag = Kind.image.tag) && head.media?.any (fun media => decide (media.kind ≠ .image))

/-- The wrapper of the link that an image asks for. -/
def linkAsked? (head : Head) : Option Wrapper :=
  if head.tag = Kind.image.tag ∧ head.converts = false then
    head.source?.bind fun source => (Link.ofSource source false).wrapper
  else none

/-- The text of the figcaption that a media element asks for. -/
def captionAsked? (head : Head) : Option String :=
  head.source?.bind fun _ => (Caption.ofAlt? (head.attributes.text? "alt")).captionText?

end Head

/-- A figure around an element is in no link if the element is in none. -/
theorem Surroundings.insideFigure_and_not_insideLink (surroundings : Surroundings) :
    (surroundings.insideFigure && !surroundings.insideLink) =
      decide (surroundings = .figure) := by
  cases surroundings <;> rfl

namespace Link

theorem source_ofSource (source : String) (insideLink : Bool) :
    (ofSource source insideLink).source = (ofSource source false).source := by
  unfold ofSource
  split <;> rfl

theorem wrapper_ofSource (source : String) (insideLink : Bool) :
    (ofSource source insideLink).wrapper = (ofSource source false).wrapper := by
  unfold ofSource
  split <;> rfl

/-- A link leads somewhere if it was asked for by a wrapper, but nowhere inside a link. -/
theorem isSome_href_ofSource (source : String) (insideLink : Bool) :
    (ofSource source insideLink).href.isSome =
      ((ofSource source false).wrapper.isSome && !insideLink) := by
  unfold ofSource
  split <;> cases insideLink <;> rfl

end Link

/-- Media that is no image has a type. -/
theorem Media.mime_ofExtension (extension : Option String)
    (player : (ofExtension extension).kind ≠ .image) :
    ∃ mime, (ofExtension extension).mime = some mime := by
  unfold ofExtension at player ⊢
  split
  · exact ⟨_, rfl⟩
  · exact ⟨_, rfl⟩
  · rename_i video audio
    simp only [video, audio] at player
    exact absurd rfl player

theorem figureShell_tag (settings : Settings) (caption : Option String) :
    (figureShell settings caption).head.tag = "figure" := by
  unfold figureShell
  split <;> rfl

namespace Plan

variable {plan : Plan} {surroundings : Surroundings}

theorem isSome_parentLink (figured : plan.figure = true → surroundings.insideFigure = false)
    (linkable : Bool) :
    (plan.parentLink surroundings linkable).isSome =
      (surroundings.insideFigure && linkable && plan.linkOutside && plan.href.isSome) := by
  obtain ⟨figure, caption, href, outside⟩ := plan
  unfold parentLink figureLink
  cases inFigure : surroundings.insideFigure with
  | false => simp
  | true =>
    have noFigure : figure = false := by simpa [inFigure] using figured
    cases outside <;> cases linkable <;> simp [noFigure]

/-- The link of a plan goes around the element, around its new figure, or around the figure that was
there before. -/
theorem links_shells (settings : Settings) (linkable : Bool) :
    (plan.shells settings surroundings linkable).any (fun frame => decide (frame.head.tag = "a")) =
      (plan.href.isSome && !(plan.parentLink surroundings linkable).isSome) := by
  obtain ⟨figure, caption, href, outside⟩ := plan
  unfold shells parentLink mediaLink figureLink
  cases href with
  | none => cases figure <;> simp [figureShell_tag]
  | some href =>
    cases figure <;> cases outside <;> cases surroundings.insideFigure <;> cases linkable <;>
      simp [figureShell_tag, shell, anchor, Head.new]

theorem countP_links_shells (settings : Settings) (plan : Plan) (surroundings : Surroundings)
    (linkable : Bool) :
    (plan.shells settings surroundings linkable).countP
      (fun frame => decide (frame.head.tag = "a")) ≤ 1 := by
  obtain ⟨figure, caption, href, outside⟩ := plan
  unfold shells mediaLink figureLink
  cases href with
  | none => cases figure <;> simp [figureShell_tag]
  | some href =>
    cases figure <;> cases outside <;> cases surroundings.insideFigure <;> cases linkable <;>
      simp [figureShell_tag, shell, anchor, Head.new]

end Plan

namespace Request

variable {head : Head} {insideLink : Bool} {request : Request}

theorem source?_of_asked (h : ofHead? head insideLink = some request) :
    ∃ source, head.source? = some source ∧ request.link = .ofSource source insideLink := by
  obtain ⟨source, present, nonempty, -, link, -⟩ := ofHead?_eq_some h
  refine ⟨source, ?_, link⟩
  rw [Head.source?, present, Option.filter_some, if_pos]
  simpa using nonempty

theorem source?_of_unasked (h : ofHead? head insideLink = none) : head.source? = none := by
  unfold ofHead? at h
  unfold Head.source?
  cases present : head.attributes.text? "src" with
  | none => rfl
  | some source =>
    simp only [present, ite_eq_left_iff] at h
    rw [Option.filter_some, if_neg]
    simpa using h

theorem media?_of_asked (h : ofHead? head insideLink = some request) :
    head.media? = some request.media := by
  obtain ⟨source, present, link⟩ := source?_of_asked h
  obtain ⟨-, -, -, -, -, media, -⟩ := ofHead?_eq_some h
  rw [Head.media?, present, Option.map_some, media, link, Link.source_ofSource source insideLink]

theorem converts_eq (h : ofHead? head insideLink = some request) :
    request.converts head.tag = head.converts := by
  rw [converts, Head.converts, media?_of_asked h, Option.any_some]

theorem captionText?_eq (h : ofHead? head insideLink = some request) :
    request.caption.captionText? = head.captionAsked? := by
  obtain ⟨source, present, -⟩ := source?_of_asked h
  obtain ⟨-, -, -, caption, -⟩ := ofHead?_eq_some h
  rw [Head.captionAsked?, present, caption]
  rfl

/-- An element is linked as an image just when it is one and stays one. -/
theorem kind_eq_image (h : ofHead? head insideLink = some request) :
    request.kind = Kind.image.tag ↔ head.tag = Kind.image.tag ∧ head.converts = false := by
  obtain ⟨-, -, -, -, -, -, kind, -⟩ := ofHead?_eq_some h
  rw [← converts_eq h, kind, converts]
  by_cases image : head.tag = Kind.image.tag
  · cases request.media.kind <;> simp [image, Kind.tag]
  · simp [image]

theorem linkAsked?_eq (h : ofHead? head insideLink = some request) :
    head.linkAsked? = if request.kind = Kind.image.tag then request.link.wrapper else none := by
  obtain ⟨source, present, link⟩ := source?_of_asked h
  simp only [Head.linkAsked?, kind_eq_image h, present, link, Option.bind_some,
    Link.wrapper_ofSource]

/-- A plan has a link if the image asks for one and is in none. -/
theorem isSome_href_plan {site : Site}
    (h : ofHead? head site.surroundings.insideLink = some request) :
    (request.plan site).href.isSome =
      (head.linkAsked?.isSome && !site.surroundings.insideLink) := by
  obtain ⟨source, -, link⟩ := source?_of_asked h
  rw [linkAsked?_eq h, plan, Plan.make]
  by_cases image : request.kind = Kind.image.tag
  · have isImage : request.kind = "img" := image
    rw [if_pos isImage, if_pos image, link, Link.isSome_href_ofSource,
      Link.wrapper_ofSource source site.surroundings.insideLink]
  · have other : request.kind ≠ "img" := image
    simp [image, other]

/-- The link of a plan belongs around the figure if the wrapper was a bracket. -/
theorem linkOutside_plan {site : Site}
    (h : ofHead? head site.surroundings.insideLink = some request)
    (linked : (request.plan site).href.isSome = true) :
    (request.plan site).linkOutside = decide (head.linkAsked? = some .bracket) := by
  rw [isSome_href_plan h] at linked
  rw [linkAsked?_eq h] at linked ⊢
  by_cases image : request.kind = Kind.image.tag
  · simp [image, plan, Plan.make]
  · simp [image] at linked

/-- A plan links the figure that was there if an image in brackets stands in it, in no link. -/
theorem isSome_parentLink {site : Site}
    (h : ofHead? head site.surroundings.insideLink = some request) :
    ((request.plan site).parentLink site.surroundings site.linkable).isSome =
      (decide (site.surroundings = .figure) && site.linkable &&
        decide (head.linkAsked? = some .bracket)) := by
  have figured : (request.plan site).figure = true → site.surroundings.insideFigure = false := by
    simp [Request.plan, Plan.make]
  have hrefs := isSome_href_plan h
  have outside := linkOutside_plan h
  rw [Plan.isSome_parentLink figured, ← Surroundings.insideFigure_and_not_insideLink]
  cases linked : (request.plan site).href.isSome with
  | true =>
    rw [linked, eq_comm, Bool.and_eq_true, Bool.not_eq_true'] at hrefs
    rw [outside linked, hrefs.2]
    simp
  | false =>
    rw [linked, eq_comm] at hrefs
    by_cases bracket : head.linkAsked? = some .bracket
    · have inLink : site.surroundings.insideLink = true := by simpa [bracket] using hrefs
      simp [inLink]
    · simp [bracket]

end Request

namespace Head

variable {head : Head}

theorem converts_of_unasked (h : head.source? = none) : head.converts = false := by
  simp [converts, media?, h]

theorem linkAsked?_of_unasked (h : head.source? = none) : head.linkAsked? = none := by
  simp [linkAsked?, h]

/-- Only an image that stays one asks for a link. -/
theorem linkAsked?_of_ne (h : head.tag ≠ Kind.image.tag) : head.linkAsked? = none :=
  if_neg fun image => h image.1

theorem converts_of_linkAsked (h : head.linkAsked?.isSome = true) : head.converts = false := by
  unfold linkAsked? at h
  split at h
  · rename_i image
    exact image.2
  · cases h

theorem captionAsked?_of_unasked (h : head.source? = none) : head.captionAsked? = none := by
  simp [captionAsked?, h]

end Head

namespace Change.Handled

variable {format : Format} {settings : Settings} {site : Site} {head : Head}
  {children : List Node} {change : Change}

/-- The figure that was there gets the caption that the element asks for, unless it has one. -/
theorem figcaption_of_site (handled : Handled format settings site head children change) :
    change.figcaption =
      if site.surroundings.insideFigure = true ∧ site.captioned = false then
        head.captionAsked?.map MediaMarkup.figcaption
      else Option.none := by
  cases handled with
  | untouched unasked =>
    rw [Head.captionAsked?_of_unasked (Request.source?_of_unasked unasked)]
    simp [none]
  | @changed request derived media events asked derives merges finishes =>
    simp only [Plan.addedCaption, Request.plan, Plan.make, Request.captionText?_eq asked]
    cases site.surroundings.insideFigure <;> cases site.captioned <;> simp

/-- The figure that was there gets a link if an image in brackets stands in it, outside of links. -/
theorem isSome_parentLink (handled : Handled format settings site head children change) :
    change.parentLink.isSome =
      (decide (site.surroundings = .figure) && site.linkable &&
        decide (head.linkAsked? = some .bracket)) := by
  cases handled with
  | untouched unasked =>
    rw [Head.linkAsked?_of_unasked (Request.source?_of_unasked unasked)]
    simp [none]
  | changed asked => exact Request.isSome_parentLink asked

/-- Whether one of the new elements around the media element is a link. -/
theorem links_shells (handled : Handled format settings site head children change) :
    change.shells.any (fun frame => decide (frame.head.tag = "a")) =
      (head.linkAsked?.isSome && !site.surroundings.insideLink && !change.parentLink.isSome) := by
  cases handled with
  | untouched unasked =>
    rw [Head.linkAsked?_of_unasked (Request.source?_of_unasked unasked)]
    simp [none]
  | @changed request derived media events asked derives merges finishes =>
    rw [Plan.links_shells, Request.isSome_href_plan asked]

/-- Inside a link, only a figure can be new, and only where there is none. -/
theorem shells_of_insideLink (handled : Handled format settings site head children change)
    (inLink : site.surroundings.insideLink = true) :
    change.shells = [] ∨ site.surroundings.insideFigure = false ∧
      ∃ caption, change.shells = [figureShell settings caption] := by
  cases handled with
  | untouched => exact .inl rfl
  | @changed request derived media events asked derives merges finishes =>
    have unlinked := Request.isSome_href_plan asked
    have figured : (request.plan site).figure = true → site.surroundings.insideFigure = false := by
      simp [Request.plan, Plan.make]
    rw [inLink, Bool.not_true, Bool.and_false, Option.isSome_eq_false_iff,
      Option.isNone_iff_eq_none] at unlinked
    simp only [Plan.shells, Plan.mediaLink, Plan.figureLink, unlinked, Option.map_none, ite_self,
      Option.toList_none, List.map_nil, List.nil_append]
    by_cases figure : (request.plan site).figure = true
    · exact .inr ⟨figured figure, _, if_pos figure⟩
    · exact .inl (if_neg figure)

/-- A media element keeps its tag and its children, or becomes a player with a source. -/
theorem media_children (handled : Handled format settings site head children change) :
    ∃ head' children', change.media = .element head' children' "" ∧ head'.mark = head.mark ∧
      if head.converts then
        head'.tag ∈ Media.tags ∧ ∃ source mime, children' = [sourceElement source mime]
      else head'.tag = head.tag ∧ children' = children := by
  cases handled with
  | untouched unasked =>
    refine ⟨head, children, rfl, rfl, ?_⟩
    rw [Head.converts_of_unasked (Request.source?_of_unasked unasked)]
    exact ⟨rfl, rfl⟩
  | @changed request derived media events asked derives merges finishes =>
    have converts_eq := Request.converts_eq asked
    cases finishes with
    | stays same =>
      rw [← converts_eq, same]
      exact ⟨_, _, rfl, rfl, rfl, rfl⟩
    | plays converts =>
      rw [converts_eq] at converts
      rw [converts]
      refine ⟨_, _, rfl, rfl, ?_, _, _, rfl⟩
      obtain ⟨-, -, -, -, -, -, kind, -⟩ := Request.ofHead?_eq_some asked
      have image : head.tag = Kind.image.tag := by
        rw [Head.converts, Bool.and_eq_true, decide_eq_true_eq] at converts
        exact converts.1
      simp only [kind, image, ↓reduceIte]
      cases request.media.kind <;> decide

/-- At most one of the new elements around a media element is a link. -/
theorem countP_links_shells (handled : Handled format settings site head children change) :
    change.shells.countP (fun frame => decide (frame.head.tag = "a")) ≤ 1 := by
  cases handled with
  | untouched => simp [none]
  | changed => exact Plan.countP_links_shells ..

end Change.Handled

/-- An image with a source and an alt text. -/
def Node.picture (source alt : String) : Node :=
  .element (.new Kind.image.tag [("src", .text source), ("alt", .text alt)] "") [] ""

/-- An element with nothing else than its children. -/
def Node.around (tag : String) (children : List Node) : Node :=
  .element (.new tag [] "") children ""

end MediaMarkup
