import MediaMarkup.Document.Place

/-!
Walking a document in its order while it is edited. The walk meets the children of the open element
by index, hands those with a wanted tag to a visitor and enters all other elements. The visitor
answers where the node now stands among the children, and the walk goes on behind that; without an
answer it goes on behind the index that it had.
-/

namespace MediaMarkup

/-- What a walk holds: the place that it has reached, the list of ancestors that it hands to its
visitor, and whatever the visitor keeps. The children of one element share one list of ancestors. -/
structure Walk (σ : Type) where
  place : Place
  ancestors : List Head
  memory : σ

/-- Why a walk stops early. -/
inductive Stop (ε : Type)
  | failed (cause : ε)
  | outOfBudget
  deriving DecidableEq, Repr

/-- Handles the child at an index of the open element; on failure the walk is left as it then is. -/
abbrev Visitor (σ ε : Type) :=
  Walk σ → Nat → Except (ε × Walk σ) (Option Nat × Walk σ)

namespace Walk

variable {σ ε : Type}

/-- Opens a child, with an ancestor list of its own. -/
def enter (index : Nat) (head : Head) (children : List Node) (tail : String) (walk : Walk σ) :
    Walk σ :=
  ⟨walk.place.enter index head children tail, head :: walk.ancestors, walk.memory⟩

/-- Back at the level of `walk`, after the walk `inner` below it. -/
def resume (walk inner : Walk σ) : Walk σ :=
  ⟨inner.place.leaveTo walk.place.depth, walk.ancestors, inner.memory⟩

/-- Walks the children of the open element from an index on. A step takes one from the budget. -/
def run (visitor : Visitor σ ε) (tags : List String) :
    Nat → Nat → Walk σ → Except (Stop ε × Walk σ) (Walk σ)
  | 0, _, walk => .error (.outOfBudget, walk)
  | budget + 1, index, walk =>
    match walk.place.children[index]? with
    | none => .ok walk
    | some (.element head children tail) =>
      if head.tag ∈ tags then
        match visitor walk index with
        | .error (cause, walk) => .error (.failed cause, walk)
        | .ok (found, walk) => run visitor tags budget (found.getD index + 1) walk
      else
        match run visitor tags budget 0 (walk.enter index head children tail) with
        | .error stop => .error stop
        | .ok inner => run visitor tags budget (index + 1) (walk.resume inner)
    | some _ => run visitor tags budget (index + 1) walk

/-- The walk at the root of a document. -/
def start (place : Place) (memory : σ) : Walk σ :=
  ⟨place, [place.head], memory⟩

end Walk

/-- What a walk over a whole document leaves. -/
structure Walked (σ ε : Type) where
  tree : Node
  memory : σ
  stop : Option (Stop ε)

namespace Node

/-- Walks a document; only elements have something below them. -/
def walk {σ ε : Type} (visitor : Visitor σ ε) (tags : List String) (budget : Nat) (memory : σ)
    (tree : Node) : Walked σ ε :=
  match Place.ofNode? tree with
  | none => ⟨tree, memory, none⟩
  | some place =>
    match Walk.run visitor tags budget 0 (Walk.start place memory) with
    | .ok walk => ⟨walk.place.root, walk.memory, none⟩
    | .error (stop, walk) => ⟨walk.place.root, walk.memory, some stop⟩

end Node

end MediaMarkup
