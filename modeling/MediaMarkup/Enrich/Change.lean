import MediaMarkup.Media
import MediaMarkup.Settings
import MediaMarkup.Enrich.Plan
import MediaMarkup.Title.Effect

/-!
What is to become of one media element. Its alt text, source and title are read first, and the
attributes that the title derives are collected; only then the element changes. The answer says what
stands in the element's slot afterwards, and what its surroundings are to get.
-/

namespace MediaMarkup

inductive EnrichError
  | title (cause : TitleError)
  | merge (cause : MergeError)
  /-- The document cannot take a text. -/
  | format (cause : FormatError)
  deriving DecidableEq, Repr

namespace EnrichError

def message : EnrichError → String
  | .title cause => cause.message
  | .merge cause => cause.message
  | .format cause => cause.message

end EnrichError

/-- Where a media element stands. -/
structure Site where
  surroundings : Surroundings
  /-- Whether the figure around it has a caption. -/
  captioned : Bool
  /-- Whether that figure has a parent; if not, the link goes around the element. -/
  linkable : Bool
  /-- The text behind the element. -/
  tail : String
  /-- The text behind the figure. -/
  figureTail : String
  deriving DecidableEq, Repr

/-! ## Reading an element -/

/-- What the attributes of a media element ask for. -/
structure Request where
  caption : Caption
  link : Link
  media : Media
  /-- The tag of the element that the request is about in the end. -/
  kind : String
  titleText : Option String
  title : Title
  deriving DecidableEq, Repr

namespace Request

/-- The request of an element, unless it has no source. -/
def ofHead? (head : Head) (insideLink : Bool) : Option Request :=
  match head.attributes.text? "src" with
  | none => none
  | some source =>
    if source.isEmpty then none
    else
      let link := Link.ofSource source insideLink
      let media := Media.ofSource link.source
      let titleText := head.attributes.text? "title"
      some {
        caption := .ofAlt? (head.attributes.text? "alt")
        link
        media
        kind := if head.tag = Kind.image.tag then media.kind.tag else head.tag
        titleText
        title := .parse? titleText }

/-- Whether an image has to become an element of another kind. -/
def converts (request : Request) (tag : String) : Bool :=
  tag = Kind.image.tag && request.media.kind ≠ .image

/-- The attributes that the title derives. -/
def derive (request : Request) : Except TitleError AttributeSet := do
  let effects ← Directive.interpret request.kind request.title.directives
  AttributeSet.collect effects

def readingEvents (request : Request) : List Event :=
  Media.events (some request.link.source) ++ request.title.events ++
    Directive.interpretEvents request.kind request.title.directives

end Request

/-! ## Attributes -/

namespace Request

/-- A marked alt text is cleaned where the image stays one, and dropped elsewhere. -/
def editAlt (request : Request) (tag : String) (attributes : Attributes) : Attributes :=
  match request.caption with
  | .plain _ => attributes
  | .marked _ text =>
    if tag = Kind.image.tag && !request.converts tag then attributes.setText "alt" text
    else Entries.erase "alt" attributes

def editTitle (request : Request) (attributes : Attributes) : Attributes :=
  if request.title.text = request.titleText then attributes
  else
    match request.title.text with
    | none => Entries.erase "title" attributes
    | some text => attributes.setText "title" text

/-- The texts that are written before the title's attributes are merged. -/
def writes (request : Request) (tag : String) : List String :=
  let alt :=
    match request.caption with
    | .marked _ text => if tag = Kind.image.tag && !request.converts tag then [text] else []
    | .plain _ => []
  let title := if request.title.text = request.titleText then [] else request.title.text.toList
  request.link.source :: alt ++ title

/-- The attributes before those of the title are merged into them. -/
def editAttributes (request : Request) (tag : String) (attributes : Attributes) : Attributes :=
  request.editTitle (request.editAlt tag (attributes.setText "src" request.link.source))

end Request

/-! ## Conversion -/

/-- The attributes that a converted element keeps; the source moves to a child. -/
def convertedAttributes (format : Format) (controls : Bool) (attributes : Attributes) :
    Except FormatError Attributes := do
  let kept ← format.copy (Entries.erase "alt" (Entries.erase "src" attributes))
  if controls && (kept.get? "controls").isNone then return kept.setText "controls" ""
  return kept

def sourceText (attributes : Attributes) : String :=
  (attributes.text? "src").getD ""

def sourceElement (source : String) (mime : Option String) : Node :=
  .element (.new "source" [("src", .text source), ("type", .text (mime.getD ""))] "") [] ""

/-- An image turned into a player: its text and its children are dropped. -/
def convert (format : Format) (settings : Settings) (request : Request) (tail : String)
    (head : Head) : Except FormatError Node := do
  let controls := settings.addsControls request.kind
  let attributes ← convertedAttributes format controls head.attributes
  format.checkText tail
  let source := sourceElement (sourceText head.attributes) request.media.mime
  return .element { head with tag := request.kind, attributes, text := "" } [source] ""

/-! ## New elements -/

def anchor (href : String) : Head :=
  .new "a" [("href", .text href), ("target", .text "_blank")] ""

def figcaption (text : String) : Node :=
  .element (.new "figcaption" [] text) [] ""

/-- A new element around a node. -/
def shell (head : Head) : Frame := ⟨head, [], [], ""⟩

/-- A new figure with its caption, if it gets one. -/
def figureShell (settings : Settings) (caption : Option String) : Frame :=
  let caption := (caption.map figcaption).toList
  if settings.captionsAbove then ⟨.new "figure" [] "", caption, [], ""⟩
  else ⟨.new "figure" [] "", [], caption, ""⟩

/-! ## The change -/

structure Change where
  /-- The element itself, without its tail. -/
  media : Node
  /-- The new elements around it, innermost first. -/
  shells : List Frame
  /-- The caption for the figure that was there before. -/
  figcaption : Option Node
  /-- The link to put around the figure that was there before. -/
  parentLink : Option Head
  events : List Event
  deriving Repr

/-- An element that could not be handled: its head as it was left. -/
structure Failure where
  cause : EnrichError
  head : Head
  events : List Event
  deriving Repr

namespace Change

def none (head : Head) (children : List Node) : Change :=
  ⟨.element head children "", [], .none, .none, []⟩

/-- What stands in the element's slot. -/
def slot (change : Change) : Node :=
  change.media.within change.shells

/-- A link around the element itself. -/
def linkShells (plan : Plan) (surroundings : Surroundings) : List Frame × List Event :=
  match plan.href with
  | some href =>
    if plan.linkOutside && (plan.figure || surroundings.insideFigure) then ([], [])
    else ([shell (anchor href)], [.linked href])
  | .none => ([], [])

/-- A new figure, and a link around it. -/
def figureShells (settings : Settings) (plan : Plan) (tag : String) : List Frame × List Event :=
  let figure := figureShell settings plan.figcaption
  match plan.href with
  | some href =>
    if plan.linkOutside then
      ([figure, shell (anchor href)], [.figureAdded tag, .figureLinked href])
    else ([figure], [.figureAdded tag])
  | .none => ([figure], [.figureAdded tag])

/-- The link that belongs around the figure that the element already stands in. -/
def outerLink (plan : Plan) : Option String :=
  if plan.linkOutside then plan.href else .none

/-- Puts a media element into the slot as its plan says. `linkable` tells whether the figure that is
already there has a parent; if not, the link goes around the element. -/
def restructure (settings : Settings) (plan : Plan) (surroundings : Surroundings)
    (linkable : Bool) (tag : String) (media : Node) : Change :=
  let (inner, linked) := linkShells plan surroundings
  if plan.figure then
    let (shells, events) := figureShells settings plan tag
    ⟨media, inner ++ shells, .none, .none, linked ++ events⟩
  else if surroundings.insideFigure then
    let caption := plan.figcaption.map MediaMarkup.figcaption
    match outerLink plan with
    | .none => ⟨media, inner, caption, .none, linked⟩
    | some href =>
      if linkable then ⟨media, [], caption, some (anchor href), [.parentFigureLinked href]⟩
      else ⟨media, [shell (anchor href)], caption, .none, [.linkedInside href]⟩
  else ⟨media, inner, .none, .none, linked⟩

def withEvents (events : List Event) (change : Change) : Change :=
  { change with events := events ++ change.events }

/-- The texts that a change writes or moves around its element. -/
def writes (plan : Plan) (site : Site) (change : Change) : List String :=
  (if change.shells.isEmpty then [] else [site.tail]) ++ plan.figcaption.toList ++
    if change.parentLink.isSome then [site.figureTail] else []

/-- Puts a finished media element into its slot. On failure, the events are those before it. -/
def settle (format : Format) (settings : Settings) (plan : Plan) (site : Site) (tag : String)
    (media : Node) (events : List Event) : Except (FormatError × List Event) Change :=
  let change := restructure settings plan site.surroundings site.linkable tag media
  match format.checkTexts (change.writes plan site) with
  | .error cause => .error (cause, events)
  | .ok () => .ok (change.withEvents events)

/-- Converts an element whose attributes are complete, if it has to be, and puts it into its
slot. -/
def complete (format : Format) (settings : Settings) (request : Request) (plan : Plan)
    (site : Site) (head : Head) (children : List Node) :
    Except (FormatError × List Event) Change :=
  if request.converts head.tag then
    match convert format settings request site.tail head with
    | .error cause => .error (cause, [])
    | .ok media =>
      settle format settings plan site request.kind media
        [.converted (sourceText head.attributes) request.kind]
  else settle format settings plan site head.tag (.element head children "") []

/-- Edits the attributes of an element, merges the derived ones into them, and completes it. -/
def carryOut (format : Format) (settings : Settings) (request : Request) (plan : Plan)
    (site : Site) (derived : AttributeSet) (head : Head) (children : List Node) :
    Except Failure Change :=
  match format.checkTexts (request.writes head.tag) with
  | .error cause => .error ⟨.format cause, head, request.readingEvents⟩
  | .ok () =>
    let merged := (request.editAttributes head.tag head.attributes).merge format derived
    let edited := { head with attributes := merged.attributes }
    let events := request.readingEvents ++ merged.written.map (.attributeSet · head.tag)
    match merged.failure with
    | some cause => .error ⟨.merge cause, edited, events⟩
    | .none =>
      match complete format settings request plan site edited children with
      | .error (cause, more) => .error ⟨.format cause, edited, events ++ more⟩
      | .ok change => .ok (change.withEvents events)

/-- The change that an element asks for at its site. -/
def ofElement (format : Format) (settings : Settings) (site : Site) (head : Head)
    (children : List Node) : Except Failure Change :=
  match Request.ofHead? head site.surroundings.insideLink with
  | .none => .ok (none head children)
  | some request =>
    match request.derive with
    | .error cause => .error ⟨.title cause, head, request.readingEvents⟩
    | .ok derived =>
      let plan :=
        Plan.make request.caption site.surroundings site.captioned request.link request.kind
      carryOut format settings request plan site derived head children

end Change

end MediaMarkup
