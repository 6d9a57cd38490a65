import MediaMarkup.Document.Node
import MediaMarkup.Html.Token
import MediaMarkup.Text.Blank

/-!
Reading HTML fragments into documents. Every tag is given an effect: a start tag ends the elements
that its own cannot stand in, an end tag ends what is open inside its element, and one without an
element is passed over.
-/

namespace MediaMarkup.Html

/-! ## Open elements -/

/-- An element that is being read, with its children so far, the last one first. -/
structure Opened where
  head : Head
  children : List Node
  deriving Repr

namespace Opened

def ofTag (tag : String) (attributes : Attributes) : Opened :=
  ⟨.new tag attributes "", []⟩

def node (opened : Opened) : Node :=
  .element opened.head opened.children.reverse ""

def addNode (node : Node) (opened : Opened) : Opened :=
  { opened with children := node :: opened.children }

/-- Adds text behind all that is there. -/
def addText (text : String) (opened : Opened) : Opened :=
  match opened.children with
  | [] => { opened with head := { opened.head with text := opened.head.text ++ text } }
  | last :: before => { opened with children := last.withTail (last.tail ++ text) :: before }

end Opened

/-- The element that is read into, and those around it, innermost first. -/
structure Reading where
  inner : Opened
  outer : List Opened
  /-- The number of start tags that opened nothing, but whose end tags are to come. -/
  passed : Nat
  deriving Repr

namespace Reading

/-- The tags of the open elements, innermost first, without the one around all content. -/
def tags (reading : Reading) : List String :=
  (reading.inner :: reading.outer).dropLast.map (·.head.tag)

/-- Ends the innermost element, unless there is none around it. -/
def close (reading : Reading) : Reading :=
  match reading.outer with
  | [] => reading
  | parent :: outer => { reading with inner := parent.addNode reading.inner.node, outer }

def closeTimes : Nat → Reading → Reading
  | 0, reading => reading
  | times + 1, reading => closeTimes times reading.close

/-! ## Tags -/

/-- How many of the innermost elements a new one ends. -/
def ended (tag : String) (reading : Reading) : Nat :=
  (reading.tags.takeWhile (fun opened => (ends opened).contains tag)).length

/-- How many elements an end tag ends. One of lower rank than an element in between ends none. -/
def reached (tag : String) (reading : Reading) : Nat :=
  let inside := reading.tags.takeWhile (fun opened => opened ≠ tag && rank opened ≤ rank tag)
  if reading.tags[inside.length]? = some tag then inside.length + 1 else 0

/-- The elements around all content, whose tags are passed over. -/
def frameTags : List String := ["body", "head", "html"]

def start (tag : String) (attributes : Attributes) (closed : Bool) (reading : Reading) : Reading :=
  if frameTags.contains tag then { reading with passed := reading.passed + 1 }
  else
    let reading := closeTimes (reading.ended tag) reading
    let opened := Opened.ofTag tag attributes
    if closed || isVoid tag then { reading with inner := reading.inner.addNode opened.node }
    else { reading with inner := opened, outer := reading.inner :: reading.outer }

/-- Reads tokens. The end tag of what is around all content ends the reading. -/
def readAll : List Token → Reading → Reading
  | [], reading => reading
  | .start tag attributes closed :: rest, reading =>
    readAll rest (reading.start tag attributes closed)
  | .stop tag :: rest, reading =>
    if frameTags.contains tag then
      if reading.passed = 0 then reading
      else readAll rest { reading with passed := reading.passed - 1 }
    else readAll rest (closeTimes (reading.reached tag) reading)
  | .comment text :: rest, reading =>
    readAll rest { reading with inner := reading.inner.addNode (.comment text "") }
  | .text text :: rest, reading =>
    readAll rest { reading with inner := reading.inner.addText text }

/-- The element around all content, once everything in it has ended. -/
def finish (reading : Reading) : Node :=
  (closeTimes reading.outer.length reading).inner.node

end Reading

/-! ## Fragments -/

/-- The end tags of what is around all content. -/
def frameEnd : List Char := "</body></html>".toList

/-- The fragment in an element that holds it; a blank text before its first node is dropped. -/
def readFragment (source : List Char) : Node :=
  let start : Reading := ⟨.ofTag "div" [], [], 0⟩
  let tokens := tokens (normalize source ++ frameEnd)
  match (start.readAll tokens).finish with
  | .element head children tail =>
    let text := if Text.isBlankText head.text.toList then "" else head.text
    .element { head with text } children tail
  | node => node

end MediaMarkup.Html
