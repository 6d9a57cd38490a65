import MediaMarkup.Document.Path
import MediaMarkup.Enrich.Pass

/-!
Enriching one element of a document with a list of ancestors that the caller chooses. The figure
among them is edited wherever it is.
-/

namespace MediaMarkup

/-- What is left after one element was handled. -/
structure Placed where
  tree : Node
  /-- The tag of what stands in the element's slot. -/
  tag : Option String
  /-- Where that is among the children of the element's parent, unless it is elsewhere now. -/
  position : Option Nat
  /-- The tags of the list of ancestors. -/
  chain : List String
  events : List Event
  deriving Repr

namespace Change

/-- From the slot down to the media element. -/
def inward (change : Change) : Path :=
  change.shells.reverse.map (fun frame => frame.before.length)

/-- A change without its edits of the figure that was there before. -/
def withoutFigure (change : Change) : Change :=
  { change with figcaption := .none, parentLink := .none }

/-- Whether a figure is gone with the children of an element that was converted. -/
def drops (tag : String) (path figure : Path) (change : Change) : Bool :=
  !change.media.hasTag tag && (figure.length > path.length && (Path.below? path figure).isSome)

end Change

namespace Enrich

/-- Carries out a change at a path; `figure` leads to the figure that it edits. -/
def applyAt (first : Bool) (change : Change) (path figure : Path) (tags : List String)
    (tree : Node) : Placed :=
  let tree := tree.editAt change.slot.replaceBy path
  let figure := Path.afterWrap path change.inward figure
  let (tree, shift) :=
    match change.figcaption with
    | some caption =>
      if first then
        (tree.editAt (Node.mapChildren (caption :: ·)) figure, Path.afterInsertFirst figure)
      else (tree.editAt (Node.mapChildren (· ++ [caption])) figure, id)
    | none => (tree, id)
  let figure := shift figure
  let (tree, wrap, tags) :=
    match change.parentLink with
    | some link =>
      (tree.editAt (Node.wrapIn link) figure, Path.afterWrap figure [0],
        tags.insertIdx 1 link.tag)
    | none => (tree, id, tags)
  { tree
    tag := change.slot.tag?
    position := Path.childIndex? (wrap (shift path.dropLast)) (wrap (shift path))
    chain := tags
    events := change.events }

end Enrich

inductive AtPathError
  | path (cause : PathError)
  | enrich (cause : EnrichError) (events : List Event)
  deriving DecidableEq, Repr

namespace Node

/-- Handles the element at a path, with the elements at the paths of `chain` as its ancestors. -/
def enrichAt (settings : Settings) (path : Path) (chain : List Path) (tree : Node) :
    Except AtPathError Placed := do
  let node ← (tree.at? path).mapError .path
  let ancestors ← (chain.mapM tree.at?).mapError .path
  let surroundings := Surroundings.ofTags (ancestors.map Node.tag?)
  let figure := (surroundings.figure?.bind (chain[·]?)).getD []
  let captioned := surroundings.captioned ancestors
  let linkable := (chain[1]?.bind (Path.childIndex? · figure)).isSome
  let site : Site := ⟨surroundings, captioned, linkable, node.tail, ""⟩
  let tags := ancestors.filterMap Node.tag?
  match node.head? with
  | none => .error (.path .notAnElement)
  | some head =>
    match Change.ofElement .data settings site head node.children with
    | .error failure => .error (.enrich failure.cause failure.events)
    | .ok change =>
      let change := if change.drops head.tag path figure then change.withoutFigure else change
      .ok (Enrich.applyAt settings.captionsAbove change path figure tags tree)

end Node

end MediaMarkup
