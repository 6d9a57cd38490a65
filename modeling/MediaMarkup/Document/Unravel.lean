import MediaMarkup.Document.Paragraph
import MediaMarkup.Format

/-!
Unravelling the paragraphs of a document in the format that it is kept in. Plain data never fails;
in markup, a paragraph is only cut if all that is written anew can be held.
-/

namespace MediaMarkup

namespace Paragraph

def lastTail (piece : Node) : String :=
  (piece.children.getLast?.map Node.tail).getD ""

/-- The texts that are written when a paragraph is cut: its own, those behind its block media, those
at the ends of its pieces, and the one behind it. -/
def writes (paragraph : Node) : List String :=
  let pieces := split paragraph
  let text := (paragraph.head?.map Head.text).getD ""
  text :: (paragraph.children.filter Node.isBlockMedia).map Node.tail ++
    (pieces.filter (Node.hasTag "p")).map lastTail ++
    if pieces.isEmpty then [] else [paragraph.tail]

/-- A paragraph that is to be cut, with its attributes as its first piece takes them over. -/
def prepare (paragraph : Node) : Except FormatError Node :=
  match paragraph with
  | .element head children tail => do
    let attributes ← Format.markup.copy head.attributes
    Format.markup.checkTexts (writes paragraph)
    return .element { head with attributes } children tail
  | node => .ok node

end Paragraph

namespace Node

mutual

/-- Prepares the paragraphs below a node for unravelling. -/
def prepare : Node → Except FormatError Node
  | .element head children tail => do
    let children ← prepareAll children
    return .element head children tail
  | node => .ok node

def prepareAll : List Node → Except FormatError (List Node)
  | [] => .ok []
  | node :: rest => do
    let node ← if node.needsUnravelling then Paragraph.prepare node else prepare node
    let rest ← prepareAll rest
    return node :: rest

end

/-- Unravels the paragraphs below a node of a document in a format. -/
def unravelAs (format : Format) (node : Node) : Except FormatError Node :=
  match format with
  | .data => .ok node.unravel
  | .markup => node.prepare.map unravel

theorem unravelAs_data (node : Node) : node.unravelAs .data = .ok node.unravel := rfl

end Node

end MediaMarkup
