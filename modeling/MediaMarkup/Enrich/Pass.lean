import MediaMarkup.Document.Walk
import MediaMarkup.Enrich.Change
import MediaMarkup.Document.Unravel

/-!
Enriching a document: a walk over its media elements that carries out the change that each of them
asks for, and the unravelling of its paragraphs.
-/

namespace MediaMarkup

/-! ## One element -/

namespace Walk

/-- The walk of an enriching pass remembers what was worth a message. -/
abbrev Enriching := Walk (List Event)

def surroundings (walk : Enriching) : Surroundings :=
  .ofTags (walk.ancestors.map (fun head => some head.tag))

/-- Whether the figure around the children of the open element has a caption. -/
def captioned (walk : Enriching) : Bool :=
  match walk.surroundings.figure?, walk.place.outer with
  | some 0, _ => hasFigcaption walk.place.children
  | some _, frame :: _ => hasFigcaption (frame.before ++ frame.after)
  | _, _ => false

/-- A figure can be linked if something is around it. -/
def linkable (walk : Enriching) : Bool :=
  1 < walk.ancestors.length

/-- The site of a child of the open element, with the text behind the child. -/
def site (tail : String) (walk : Enriching) : Site :=
  ⟨walk.surroundings, walk.captioned, walk.linkable, tail, walk.place.tail⟩

def record (events : List Event) (walk : Enriching) : Enriching :=
  { walk with memory := walk.memory ++ events }

/-- Adds a caption to the figure around the node at an index, and answers where the node is then. -/
def addFigcaption (first : Bool) (caption : Node) (index : Nat) (walk : Enriching) :
    Nat × Enriching :=
  match walk.surroundings.figure? with
  | some 0 =>
    let children := walk.place.children
    if first then
      (index + 1, { walk with place := walk.place.withChildren (caption :: children) })
    else (index, { walk with place := walk.place.withChildren (children ++ [caption]) })
  | _ => (index, { walk with place := walk.place.addToParent first caption })

/-- Puts a link around the open element, into the list of ancestors too. -/
def linkParent (link : Head) (walk : Enriching) : Enriching :=
  { walk with place := walk.place.wrap link, ancestors := walk.ancestors.insertIdx 1 link }

/-- Carries out a change of the node at an index, and answers where the node is then. -/
def apply (first : Bool) (change : Change) (index : Nat) (tail : String) (walk : Enriching) :
    Nat × Enriching :=
  let placed := { walk with place := walk.place.setChild index (change.slot.withTail tail) }
  let (index, captioned) :=
    match change.figcaption with
    | some caption => placed.addFigcaption first caption index
    | none => (index, placed)
  let linked :=
    match change.parentLink with
    | some link => captioned.linkParent link
    | none => captioned
  (index, linked.record change.events)

end Walk

namespace Enrich

/-- Handles one media element. -/
def visitor (format : Format) (settings : Settings) : Visitor (List Event) EnrichError :=
  fun walk index =>
  match walk.place.children[index]? with
  | some (.element head children tail) =>
    match Change.ofElement format settings (walk.site tail) head children with
    | .ok change =>
      let (index, walk) := walk.apply settings.captionsAbove change index tail
      .ok (some index, walk)
    | .error failure =>
      let left := walk.place.setChild index (.element failure.head children tail)
      .error (failure.cause, { walk with place := left }.record failure.events)
  | _ => .ok (none, walk)

/-! ## Whole documents -/

/-- More steps than the walk over a document can take: an element is met a second time only if its
figure got a caption in front of it, and a figure gets one caption. -/
def budget (tree : Node) : Nat :=
  64 * (tree.size + 1) * (tree.size + 1)

def walk (format : Format) (settings : Settings) (tree : Node) :
    Walked (List Event) EnrichError :=
  tree.walk (visitor format settings) Media.tags (budget tree) []

end Enrich

/-- What an enriching pass leaves: on failure, the document as it was when the pass stopped. -/
structure Enriched where
  tree : Node
  events : List Event
  failure : Option (Stop EnrichError)

namespace Node

/-- Enriches a document that is kept in a format. -/
def enrichAs (format : Format) (settings : Settings) (tree : Node) : Enriched :=
  if settings.enable then
    let walked := Enrich.walk format settings tree
    match walked.stop with
    | some stop => ⟨walked.tree, walked.memory, some stop⟩
    | none =>
      if settings.unravelParagraphs then
        match walked.tree.unravelAs format with
        | .error cause => ⟨walked.tree, walked.memory, some (.failed (.format cause))⟩
        | .ok tree => ⟨tree, walked.memory, none⟩
      else ⟨walked.tree, walked.memory, none⟩
  else ⟨tree, [.disabled], none⟩

/-- Enriches a document that is plain data. -/
def enrich (settings : Settings) (tree : Node) : Enriched :=
  tree.enrichAs .data settings

end Node

end MediaMarkup
