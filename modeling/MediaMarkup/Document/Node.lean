import MediaMarkup.Attribute

/-!
Documents as trees. Text before the first child belongs to the element, text behind a node to that
node, as its tail; an absent text is the empty one.
-/

namespace MediaMarkup

/-- An element without its children and its tail. -/
structure Head where
  tag : String
  attributes : Attributes
  text : String
  /-- Tells elements of one document apart. Edits carry it along and never look at it; an element
  that they add has none. -/
  mark : Option Nat
  deriving Repr

inductive Node
  | element (head : Head) (children : List Node) (tail : String)
  | comment (text tail : String)
  | instruction (text tail : String)
  deriving Repr

/-- Induction over documents: the children of an element come before it. -/
@[elab_as_elim]
theorem Node.inductionOn {motive : Node → Prop} (node : Node)
    (element : ∀ head children tail, (∀ child ∈ children, motive child) →
      motive (.element head children tail))
    (comment : ∀ text tail, motive (.comment text tail))
    (instruction : ∀ text tail, motive (.instruction text tail)) : motive node :=
  match node with
  | .element head children tail =>
    element head children tail fun child _ => inductionOn child element comment instruction
  | .comment text tail => comment text tail
  | .instruction text tail => instruction text tail

/-- Induction over lists of nodes: before an element in front come its children and the rest. -/
@[elab_as_elim]
theorem Node.inductionOnAll {motive : List Node → Prop} (nodes : List Node) (nil : motive [])
    (element : ∀ head children tail rest, motive children → motive rest →
      motive (.element head children tail :: rest))
    (comment : ∀ text tail rest, motive rest → motive (.comment text tail :: rest))
    (instruction : ∀ text tail rest, motive rest → motive (.instruction text tail :: rest)) :
    motive nodes :=
  match nodes with
  | [] => nil
  | .element head children tail :: rest =>
    element head children tail rest (inductionOnAll children nil element comment instruction)
      (inductionOnAll rest nil element comment instruction)
  | .comment text tail :: rest =>
    comment text tail rest (inductionOnAll rest nil element comment instruction)
  | .instruction text tail :: rest =>
    instruction text tail rest (inductionOnAll rest nil element comment instruction)

namespace Head

/-- The head of an element that is added to a document. -/
def new (tag : String) (attributes : Attributes) (text : String) : Head :=
  ⟨tag, attributes, text, none⟩

end Head

namespace Node

def head? : Node → Option Head
  | .element head _ _ => some head
  | _ => none

def tag? (node : Node) : Option String :=
  node.head?.map Head.tag

def isElement (node : Node) : Bool :=
  node.head?.isSome

def hasTag (tag : String) (node : Node) : Bool :=
  node.tag? = some tag

def children : Node → List Node
  | .element _ children _ => children
  | _ => []

def tail : Node → String
  | .element _ _ tail => tail
  | .comment _ tail => tail
  | .instruction _ tail => tail

def withTail (tail : String) : Node → Node
  | .element head children _ => .element head children tail
  | .comment text _ => .comment text tail
  | .instruction text _ => .instruction text tail

def withoutTail (node : Node) : Node :=
  node.withTail ""

@[simp] theorem tail_withTail (text : String) (node : Node) : (node.withTail text).tail = text := by
  cases node <;> rfl

@[simp] theorem withTail_tail (node : Node) : node.withTail node.tail = node := by
  cases node <;> rfl

@[simp] theorem withTail_withTail (first second : String) (node : Node) :
    (node.withTail first).withTail second = node.withTail second := by
  cases node <;> rfl

mutual

/-- The number of nodes in a tree. -/
def size : Node → Nat
  | .element _ children _ => 1 + sizes children
  | _ => 1

def sizes : List Node → Nat
  | [] => 0
  | node :: rest => size node + sizes rest

end

end Node

/-! ## Frames -/

/-- An element around an open child: all of it but that child. -/
structure Frame where
  head : Head
  before : List Node
  after : List Node
  tail : String
  deriving Repr

namespace Frame

/-- The element with its child. -/
def attach (node : Node) (frame : Frame) : Node :=
  .element frame.head (frame.before ++ node :: frame.after) frame.tail

end Frame

namespace Node

/-- A node inside frames, innermost first. -/
def within (node : Node) (frames : List Frame) : Node :=
  frames.foldl Frame.attach node

/-- A node inside a new element, which takes over its tail. -/
def wrapIn (head : Head) (node : Node) : Node :=
  (Frame.mk head [] [] node.tail).attach node.withoutTail

/-- A node in the place of another takes over its tail. -/
def replaceBy (new old : Node) : Node :=
  new.withTail old.tail

end Node

end MediaMarkup
