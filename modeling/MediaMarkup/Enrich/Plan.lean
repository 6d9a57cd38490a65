import MediaMarkup.Caption
import MediaMarkup.Link
import MediaMarkup.Document.Node

/-!
The link or figure that a media element already stands in, and the plan of what is to be put around
it. Only the parent and the grandparent are looked at.
-/

namespace MediaMarkup

inductive Surroundings
  | plain
  /-- The parent is a link. -/
  | link
  /-- The parent is a figure. -/
  | figure
  /-- The parent is a figure and the grandparent a link. -/
  | figureInLink
  /-- The parent is a link and the grandparent a figure. -/
  | linkInFigure
  deriving DecidableEq, Repr

namespace Surroundings

/-- The surroundings given by the tags of the ancestors, the parent's first. -/
def ofTags (tags : List (Option String)) : Surroundings :=
  let parent := tags[0]?.join
  let grandparent := tags[1]?.join
  if parent = some "a" then
    if grandparent = some "figure" then .linkInFigure else .link
  else if parent = some "figure" then
    if grandparent = some "a" then .figureInLink else .figure
  else .plain

/-- The position of the link among the ancestors. -/
def link? : Surroundings → Option Nat
  | .link | .linkInFigure => some 0
  | .figureInLink => some 1
  | .plain | .figure => none

/-- The position of the figure among the ancestors. -/
def figure? : Surroundings → Option Nat
  | .figure | .figureInLink => some 0
  | .linkInFigure => some 1
  | .plain | .link => none

def insideLink (surroundings : Surroundings) : Bool :=
  surroundings.link?.isSome

def insideFigure (surroundings : Surroundings) : Bool :=
  surroundings.figure?.isSome

end Surroundings

/-- Whether one of the children of a figure is its caption. -/
def hasFigcaption (children : List Node) : Bool :=
  children.any (Node.hasTag "figcaption")

/-- Whether the figure among the ancestors has a caption. -/
def Surroundings.captioned (surroundings : Surroundings) (ancestors : List Node) : Bool :=
  match surroundings.figure?.bind (ancestors[·]?) with
  | some node => hasFigcaption node.children
  | none => false

/-- What is to be put around a media element. -/
structure Plan where
  /-- Whether it needs a figure. -/
  figure : Bool
  /-- The caption that its figure, new or not, is to get. -/
  figcaption : Option String
  /-- Where the link that it needs leads. -/
  href : Option String
  /-- Whether that link belongs around the figure. -/
  linkOutside : Bool
  deriving DecidableEq, Repr

namespace Plan

/-- The plan for an element of a kind; `captioned` tells whether the figure around it, if there is
one, has a caption. Only images are linked. -/
def make (caption : Caption) (surroundings : Surroundings) (captioned : Bool) (link : Link)
    (kind : String) : Plan where
  figure := caption.isMarked && !surroundings.insideFigure
  figcaption := if surroundings.insideFigure && captioned then none else caption.captionText?
  href := if kind = "img" then link.href else none
  linkOutside := link.wrapper = some .bracket

end Plan

end MediaMarkup
