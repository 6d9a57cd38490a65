import MediaMarkup.Document.Node

/-!
Paths in a document: child indices from the root downwards, comments counted. Besides looking up and
editing an element, a path can be moved along when an edit elsewhere shifts what it leads to.
-/

namespace MediaMarkup

abbrev Path := List Nat

inductive PathError
  | noSuchChild
  /-- The path meets a comment or a processing instruction. -/
  | notAnElement
  deriving DecidableEq, Repr

namespace PathError

def message : PathError → String
  | .noSuchChild => "child index out of range"
  | .notAnElement => "path meets a comment or processing instruction"

end PathError

namespace Node

/-- The element at the end of a path. -/
def at? (node : Node) : Path → Except PathError Node
  | [] => .ok node
  | index :: path =>
    match node.children[index]? with
    | none => .error .noSuchChild
    | some child => if child.isElement then child.at? path else .error .notAnElement

/-- The document with the node at the end of a path replaced by its edit. -/
def editAt (edit : Node → Node) (node : Node) : Path → Node
  | [] => edit node
  | index :: path =>
    match node with
    | .element head children tail =>
      match children[index]? with
      | some child => .element head (children.set index (child.editAt edit path)) tail
      | none => node
    | _ => node

def mapHead (edit : Head → Head) : Node → Node
  | .element head children tail => .element (edit head) children tail
  | node => node

def mapChildren (edit : List Node → List Node) : Node → Node
  | .element head children tail => .element head (edit children) tail
  | node => node

/-- The index of the wanted child, looked for from `start` on and then before it. -/
def position? (wanted : Nat → Bool) (count start : Nat) : Option Nat :=
  match (List.range' start (count - start)).find? wanted with
  | some index => some index
  | none => (List.range (min start count)).find? wanted

end Node

namespace Path

/-- The path that leads on below another one. -/
def below? : Path → Path → Option Path
  | [], path => some path
  | _ :: _, [] => none
  | a :: above, b :: path => if a = b then below? above path else none

/-- Where a path leads after elements were put around what is at `slot`; `inward` leads from the
outermost of them to what was there. -/
def afterWrap (slot inward : Path) (path : Path) : Path :=
  match below? slot path with
  | some rest => slot ++ inward ++ rest
  | none => path

/-- Where a path leads after the element at `parent` got a new first child. -/
def afterInsertFirst (parent : Path) (path : Path) : Path :=
  match below? parent path with
  | some (index :: rest) => parent ++ (index + 1) :: rest
  | _ => path

/-- The last step of a path that leads to a child of `parent`. -/
def childIndex? (parent : Path) (path : Path) : Option Nat :=
  match below? parent path with
  | some [index] => some index
  | _ => none

end Path

end MediaMarkup
