import MediaMarkup.Proofs.Asked

/-!
What is put around a media element, read off its head and its site: a figure, a link, a link in a
figure, or a figure in a link (`Wrapping`). A figure is put around an element with a marked alt text
that is in none; a link, around an image that asks for one and is in none, unless the figure that is
there is linked in its place. Main statement: a change that is carried out puts just that wrapping
around the element (`Change.Handled.slot_eq`).
-/

namespace MediaMarkup

/-! ## Wrappings -/

/-- A figure around a node, with its caption, if it gets one. -/
def figureAround (above : Bool) (caption : Option String) (node : Node) : Node :=
  let caption := (caption.map figcaption).toList
  .element (.new "figure" [] "") (if above then caption ++ [node] else node :: caption) ""

def linkAround (href : String) (node : Node) : Node :=
  .element (anchor href) [node] ""

/-- The new elements around a media element. -/
inductive Wrapping
  | bare
  | figure (caption : Option String)
  | link (href : String)
  | linkInFigure (caption : Option String) (href : String)
  | figureInLink (caption : Option String) (href : String)
  deriving DecidableEq, Repr

/-- A media element in its wrapping. -/
def Wrapping.around (above : Bool) (media : Node) : Wrapping → Node
  | .bare => media
  | .figure caption => figureAround above caption media
  | .link href => linkAround href media
  | .linkInFigure caption href => figureAround above caption (linkAround href media)
  | .figureInLink caption href => linkAround href (figureAround above caption media)

theorem attach_figureShell (settings : Settings) (caption : Option String) (node : Node) :
    (figureShell settings caption).attach node =
      figureAround settings.captionsAbove caption node := by
  unfold figureShell figureAround
  cases settings.captionsAbove <;> rfl

theorem attach_anchor (href : String) (node : Node) :
    (shell (anchor href)).attach node = linkAround href node := rfl

/-! ## What an element asks for -/

namespace Head

/-- Whether the alt text of a media element has a marker. -/
def figureAsked (head : Head) : Bool :=
  head.source?.isSome && (Caption.ofAlt? (head.attributes.text? "alt")).isMarked

/-- Where the link that an image asks for leads: to what the image shows. -/
def hrefAsked? (head : Head) : Option String :=
  if head.linkAsked?.isSome then
    head.source?.map fun source => (Link.ofSource source false).source
  else none

/-- The element itself, or the player that it becomes, without a tail. -/
def Becomes (head : Head) (children : List Node) (media : Node) : Prop :=
  ∃ attributes,
    if head.converts then
      ∃ tag source mime, tag ∈ Media.tags ∧ tag ≠ Kind.image.tag ∧
        media = .element { head with tag, attributes, text := "" } [sourceElement source mime] ""
    else media = .element { head with attributes } children ""

end Head

namespace Site

variable (head : Head) (site : Site)

/-- Whether the link goes around the figure that the element stands in. -/
def linksFigure : Bool :=
  decide (site.surroundings = .figure) && site.linkable &&
    decide (head.linkAsked? = some .bracket)

/-- Whether the element gets a figure. -/
def needsFigure : Bool :=
  head.figureAsked && !site.surroundings.insideFigure

/-- Where the link in the element's slot leads, if there is one. -/
def newLink? : Option String :=
  if site.surroundings.insideLink || site.linksFigure head then none else head.hrefAsked?

/-- Where the link around the figure leads that the element stands in. -/
def figureLink? : Option String :=
  if site.linksFigure head then head.hrefAsked? else none

/-- The caption that the figure gets that the element stands in. -/
def figureCaption? : Option String :=
  if site.surroundings.insideFigure && !site.captioned then head.captionAsked? else none

/-- What is put around the element. -/
def wrapping : Wrapping :=
  match site.needsFigure head, site.newLink? head with
  | false, none => .bare
  | true, none => .figure head.captionAsked?
  | false, some href => .link href
  | true, some href =>
    if head.linkAsked? = some .bracket then .figureInLink head.captionAsked? href
    else .linkInFigure head.captionAsked? href

variable {head site}

/-- An element that is in no figure links none. -/
theorem linksFigure_eq_false (free : site.surroundings.insideFigure = false) :
    site.linksFigure head = false := by
  have elsewhere : site.surroundings ≠ .figure := by
    intro figure
    rw [figure] at free
    cases free
  simp [linksFigure, elsewhere]

theorem free_of_needsFigure (needs : site.needsFigure head = true) :
    site.surroundings.insideFigure = false := by
  simp only [needsFigure, Bool.and_eq_true, Bool.not_eq_true'] at needs
  exact needs.2

end Site

/-! ## Plans -/

theorem Kind.tag_player {kind : Kind} (player : kind ≠ .image) :
    kind.tag ∈ Media.tags ∧ kind.tag ≠ Kind.image.tag := by
  cases kind with
  | image => exact absurd rfl player
  | video => decide
  | audio => decide

/-- A source in a wrapper is linked to what it shows, but not inside a link. -/
theorem Link.href_ofSource (source : String) (insideLink : Bool) :
    (ofSource source insideLink).href =
      if insideLink then none
      else if (ofSource source false).wrapper.isSome then some (ofSource source false).source
      else none := by
  unfold ofSource
  split <;> cases insideLink <;> rfl

theorem Plan.parentLink_cases (plan : Plan) (surroundings : Surroundings) (linkable : Bool) :
    plan.parentLink surroundings linkable = none ∨
      plan.parentLink surroundings linkable = plan.href.map anchor := by
  unfold parentLink figureLink
  split
  · split
    · exact .inr rfl
    · exact .inl rfl
  · exact .inl rfl

namespace Request

variable {head : Head} {request : Request} {site : Site}

theorem figure_plan (asked : ofHead? head site.surroundings.insideLink = some request) :
    (request.plan site).figure = site.needsFigure head := by
  obtain ⟨source, present, -⟩ := source?_of_asked asked
  obtain ⟨-, -, -, caption, -⟩ := ofHead?_eq_some asked
  rw [plan, Plan.make, Site.needsFigure, Head.figureAsked, present, caption]
  rfl

theorem href_plan (asked : ofHead? head site.surroundings.insideLink = some request) :
    (request.plan site).href =
      if site.surroundings.insideLink then none else head.hrefAsked? := by
  obtain ⟨source, present, link⟩ := source?_of_asked asked
  rw [plan, Plan.make, Head.hrefAsked?, linkAsked?_eq asked, present, link, Link.href_ofSource]
  by_cases image : request.kind = Kind.image.tag
  · have isImage : request.kind = "img" := image
    rw [if_pos isImage, if_pos image, Link.wrapper_ofSource source site.surroundings.insideLink]
    rfl
  · have other : request.kind ≠ "img" := image
    rw [if_neg other, if_neg image]
    simp

theorem figcaption_plan (asked : ofHead? head site.surroundings.insideLink = some request) :
    (request.plan site).figcaption =
      if site.surroundings.insideFigure && site.captioned then none else head.captionAsked? := by
  rw [plan, Plan.make, captionText?_eq asked]

theorem newLink?_eq (asked : ofHead? head site.surroundings.insideLink = some request) :
    site.newLink? head = if site.linksFigure head then none else (request.plan site).href := by
  rw [Site.newLink?, href_plan asked]
  cases site.surroundings.insideLink <;> cases site.linksFigure head <;> rfl

/-- Without a new figure, the link stays at the element unless it goes around the figure that is
there. -/
theorem mediaLink_plan (asked : ofHead? head site.surroundings.insideLink = some request)
    (noFigure : site.needsFigure head = false) :
    (request.plan site).mediaLink site.surroundings site.linkable =
      (site.newLink? head).map anchor := by
  rw [Plan.mediaLink, figure_plan asked, noFigure, newLink?_eq asked]
  cases href : (request.plan site).href with
  | none => simp
  | some link =>
    have free : site.surroundings.insideLink = false :=
      insideLink_of_href asked (Plan.href_of_make href)
    have outside := linkOutside_plan asked (by rw [href]; rfl)
    have figured := site.surroundings.insideFigure_and_not_insideLink
    rw [free, Bool.not_false, Bool.and_true] at figured
    rw [outside, Site.linksFigure, figured, Bool.false_or, Bool.and_comm]
    split <;> rfl

end Request

namespace Change.Handled

variable {format : Format} {settings : Settings} {site : Site} {head : Head}
  {children : List Node} {change : Change}

/-- The media element in the slot is the one that was there, or the player that it becomes. -/
theorem becomes (handled : Handled format settings site head children change) :
    head.Becomes children change.media := by
  cases handled with
  | untouched unasked =>
    refine ⟨head.attributes, ?_⟩
    rw [Head.converts_of_unasked (Request.source?_of_unasked unasked)]
    rfl
  | @changed request derived media events asked derives merges finishes =>
    have converts_eq := Request.converts_eq asked
    cases finishes with
    | stays same =>
      exact ⟨(request.merge format derived head).attributes, by rw [← converts_eq, same]; rfl⟩
    | @plays attributes converts kept =>
      refine ⟨attributes, ?_⟩
      rw [if_pos (converts_eq.symm.trans converts)]
      rw [Request.converts, Bool.and_eq_true, decide_eq_true_eq, decide_eq_true_eq] at converts
      obtain ⟨-, -, -, -, -, -, kind, -⟩ := Request.ofHead?_eq_some asked
      rw [if_pos converts.1] at kind
      obtain ⟨isMedia, noImage⟩ := Kind.tag_player converts.2
      exact ⟨request.kind, _, _, kind ▸ isMedia, kind ▸ noImage, rfl⟩

theorem figcaption_eq_map (handled : Handled format settings site head children change) :
    change.figcaption = (site.figureCaption? head).map MediaMarkup.figcaption := by
  rw [handled.figcaption_of_site, Site.figureCaption?]
  cases site.surroundings.insideFigure <;> cases site.captioned <;> rfl

theorem parentLink_eq_map (handled : Handled format settings site head children change) :
    change.parentLink = (site.figureLink? head).map anchor := by
  cases handled with
  | untouched unasked =>
    have noLink := Head.linkAsked?_of_unasked (Request.source?_of_unasked unasked)
    simp [none, Site.figureLink?, Site.linksFigure, noLink]
  | @changed request derived media events asked derives merges finishes =>
    have linked : _ = site.linksFigure head := Request.isSome_parentLink asked
    rw [Site.figureLink?]
    cases links : site.linksFigure head with
    | false =>
      rw [links, Option.isSome_eq_false_iff, Option.isNone_iff_eq_none] at linked
      rw [linked]
      rfl
    | true =>
      have figure : site.surroundings = .figure := by
        simp only [Site.linksFigure, Bool.and_eq_true, decide_eq_true_eq] at links
        exact links.1.1
      rcases Plan.parentLink_cases (request.plan site) site.surroundings site.linkable with
        none | anchored
      · rw [links, none] at linked
        cases linked
      · rw [anchored, Request.href_plan asked, figure]
        rfl

/-- **A change puts the element in its wrapping**, and that into the slot. -/
theorem slot_eq (handled : Handled format settings site head children change) :
    change.slot = (site.wrapping head).around settings.captionsAbove change.media := by
  cases handled with
  | untouched unasked =>
    have noSource := Request.source?_of_unasked unasked
    have noFigure : site.needsFigure head = false := by
      simp [Site.needsFigure, Head.figureAsked, noSource]
    have noLink : site.newLink? head = Option.none := by
      simp [Site.newLink?, Head.hrefAsked?, noSource]
    rw [Site.wrapping, noFigure, noLink]
    rfl
  | @changed request derived media events asked derives merges finishes =>
    have figure := Request.figure_plan asked
    rw [slot, Plan.shells, figure, Site.wrapping]
    cases figured : site.needsFigure head with
    | false =>
      rw [Request.mediaLink_plan asked figured]
      cases site.newLink? head <;> rfl
    | true =>
      have free := Site.free_of_needsFigure figured
      have unlinked : site.linksFigure head = false := Site.linksFigure_eq_false free
      have caption : (request.plan site).figcaption = head.captionAsked? := by
        rw [Request.figcaption_plan asked, free]
        rfl
      have link : site.newLink? head = (request.plan site).href := by
        rw [Request.newLink?_eq asked, unlinked]
        rfl
      rw [link, caption, Plan.mediaLink, Plan.figureLink, figure, figured]
      cases href : (request.plan site).href with
      | none => simp [Node.within, attach_figureShell, Wrapping.around]
      | some target =>
        have outside := Request.linkOutside_plan asked (by rw [href]; rfl)
        by_cases bracket : head.linkAsked? = some .bracket <;>
          simp [outside, bracket, Node.within, attach_figureShell, attach_anchor, Wrapping.around]

end Change.Handled

end MediaMarkup
