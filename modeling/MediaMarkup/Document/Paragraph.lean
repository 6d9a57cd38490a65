import MediaMarkup.Document.Node
import MediaMarkup.Text.Blank

/-!
Paragraphs cannot hold figures or players. One that does is cut at them: what stands between them
stays in paragraphs of its own, unless it is blank, and every piece gets its own line.
-/

namespace MediaMarkup

namespace Node

def blockTags : List String := ["figure", "video", "audio"]

def isBlock : Node → Bool
  | .element head _ _ => blockTags.contains head.tag
  | _ => false

/-- A figure or a player, or a link with one of them among its children. -/
def isBlockMedia (node : Node) : Bool :=
  node.isBlock || (node.hasTag "a" && node.children.any isBlock)

def needsUnravelling (node : Node) : Bool :=
  node.hasTag "p" && node.children.any isBlockMedia

end Node

namespace Paragraph

/-! ## Pieces -/

/-- A paragraph with attributes, text and children. -/
def make (attributes : Attributes) (text : String) (children : List Node) : Node :=
  .element (.new "p" attributes text) children ""

/-- Cuts children at block media. `attributes`, `text` and `gathered` belong to the paragraph being
filled; the tail of a block becomes the text of the paragraph behind it. -/
def cut (attributes : Attributes) (text : String) (gathered : List Node) : List Node → List Node
  | [] => [make attributes text gathered]
  | child :: rest =>
    if child.isBlockMedia then
      make attributes text gathered :: child.withoutTail :: cut [] child.tail [] rest
    else cut attributes text (gathered ++ [child]) rest

/-- A paragraph without children whose text is blank. -/
def isBlank : Node → Bool
  | .element head children _ =>
    head.tag = "p" && children.isEmpty && Text.isBlankText head.text.toList
  | _ => false

/-! ## Edges -/

def trimStart (text : String) : String :=
  .ofList (text.toList.dropWhile (· = ' '))

def trimEnd (text : String) : String :=
  .ofList (Text.dropRightWhile (· = ' ') text.toList)

def trimLastTail : List Node → List Node
  | [] => []
  | [node] => [node.withTail (trimEnd node.tail)]
  | node :: rest => node :: trimLastTail rest

/-- Takes spaces off the start and the end of a paragraph's own text. -/
def trim : Node → Node
  | .element head children tail =>
    if head.tag = "p" then
      let text := trimStart head.text
      if children.isEmpty then .element { head with text := trimEnd text } children tail
      else .element { head with text } (trimLastTail children) tail
    else .element head children tail
  | node => node

/-- A node cut at its block media, blank paragraphs included. A comment is all text. -/
def cutNode : Node → List Node
  | .element head children _ => cut head.attributes.copied head.text [] children
  | .comment text _ => cut [] text [] []
  | .instruction text _ => cut [] text [] []

/-- The pieces of a node: what is left of its text and children in paragraphs, and the block media
between them. The first paragraph takes over the attributes. -/
def split (node : Node) : List Node :=
  ((cutNode node).filter (fun piece => !isBlank piece)).map trim

/-- Every piece ends its line, but for the last, which takes over the tail of what was there. -/
def onLines (tail : String) : List Node → List Node
  | [] => []
  | [piece] => [piece.withTail tail]
  | piece :: rest => piece.withTail "\n" :: onLines tail rest

end Paragraph

namespace Node

mutual

/-- Unravels the paragraphs below a node. Their pieces are not looked into. -/
def unravel : Node → Node
  | .element head children tail => .element head (unravelAll children) tail
  | node => node

def unravelAll : List Node → List Node
  | [] => []
  | node :: rest =>
    if node.needsUnravelling then
      Paragraph.onLines node.tail (Paragraph.split node) ++ unravelAll rest
    else unravel node :: unravelAll rest

end

end Node

end MediaMarkup
