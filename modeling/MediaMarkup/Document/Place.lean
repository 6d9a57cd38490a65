import MediaMarkup.Document.Node

/-!
Places in a document: an open element with its children, and the frames of the elements around it.
Edits at a place reach its children, and the frame next to it.
-/

namespace MediaMarkup

structure Place where
  head : Head
  children : List Node
  tail : String
  /-- The elements around the open one, innermost first. -/
  outer : List Frame
  deriving Repr

namespace Place

/-- The open element. -/
def node (place : Place) : Node :=
  .element place.head place.children place.tail

/-- The whole document. -/
def root (place : Place) : Node :=
  place.node.within place.outer

def ofNode? : Node → Option Place
  | .element head children tail => some ⟨head, children, tail, []⟩
  | _ => none

/-- The heads of the open element and of the elements around it, innermost first. -/
def chain (place : Place) : List Head :=
  place.head :: place.outer.map Frame.head

def depth (place : Place) : Nat :=
  place.outer.length

/-! ## Moving -/

/-- Opens the child at an index. -/
def enter (index : Nat) (head : Head) (children : List Node) (tail : String) (place : Place) :
    Place :=
  let frame := ⟨place.head, place.children.take index, place.children.drop (index + 1), place.tail⟩
  ⟨head, children, tail, frame :: place.outer⟩

/-- Closes the open element. -/
def leave (place : Place) : Place :=
  match place.outer with
  | [] => place
  | frame :: outer =>
    ⟨frame.head, frame.before ++ place.node :: frame.after, frame.tail, outer⟩

def leaveTimes : Nat → Place → Place
  | 0, place => place
  | times + 1, place => leaveTimes times place.leave

/-- Closes elements until `depth` are left around the open one. -/
def leaveTo (depth : Nat) (place : Place) : Place :=
  leaveTimes (place.depth - depth) place

/-! ## Edits -/

def withChildren (children : List Node) (place : Place) : Place :=
  { place with children }

def setChild (index : Nat) (node : Node) (place : Place) : Place :=
  place.withChildren (place.children.set index node)

def insertChild (index : Nat) (node : Node) (place : Place) : Place :=
  place.withChildren (place.children.insertIdx index node)

def removeChild (index : Nat) (place : Place) : Place :=
  place.withChildren (place.children.eraseIdx index)

/-- Adds a child to the element around the open one, as its first or its last. -/
def addToParent (first : Bool) (node : Node) (place : Place) : Place :=
  match place.outer with
  | [] => place
  | frame :: outer =>
    let frame :=
      if first then { frame with before := node :: frame.before }
      else { frame with after := frame.after ++ [node] }
    { place with outer := frame :: outer }

/-- Puts the open element inside a new one, which takes over its tail. -/
def wrap (head : Head) (place : Place) : Place :=
  { place with tail := "", outer := ⟨head, [], [], place.tail⟩ :: place.outer }

/-! ## Moving keeps the document -/

theorem split_children {place : Place} {index : Nat} {node : Node}
    (h : place.children[index]? = some node) :
    place.children.take index ++ node :: place.children.drop (index + 1) = place.children := by
  obtain ⟨hi, hc⟩ := List.getElem?_eq_some_iff.mp h
  rw [← hc, ← List.drop_eq_getElem_cons hi, List.take_append_drop]

theorem root_enter {place : Place} {index : Nat} {head : Head} {children : List Node}
    {tail : String} (h : place.children[index]? = some (.element head children tail)) :
    (place.enter index head children tail).root = place.root := by
  simp [enter, root, Node.within, node, Frame.attach, split_children h]

/-- A child that was only opened closes to what it was. -/
theorem leaveTo_enter {place : Place} {index : Nat} {head : Head} {children : List Node}
    {tail : String} (h : place.children[index]? = some (.element head children tail)) :
    (place.enter index head children tail).leaveTo place.depth = place := by
  have once : (place.enter index head children tail).depth - place.depth = 1 := by
    simp [enter, depth]
  rw [leaveTo, once]
  simp [leaveTimes, leave, enter, node, split_children h]

theorem setChild_self {place : Place} {index : Nat} {node : Node}
    (h : place.children[index]? = some node) : place.setChild index node = place := by
  obtain ⟨hi, hc⟩ := List.getElem?_eq_some_iff.mp h
  rw [setChild, ← hc, List.set_getElem_self]
  rfl

theorem root_leave (place : Place) : place.leave.root = place.root := by
  cases h : place.outer with
  | nil => simp [leave, h]
  | cons frame outer => simp [leave, h, root, Node.within, node, Frame.attach]

theorem root_leaveTimes (times : Nat) (place : Place) :
    (leaveTimes times place).root = place.root := by
  induction times generalizing place with
  | zero => rfl
  | succ times ih => rw [leaveTimes, ih, root_leave]

theorem root_leaveTo (depth : Nat) (place : Place) : (place.leaveTo depth).root = place.root :=
  root_leaveTimes _ _

end Place

end MediaMarkup
