import MediaMarkup.Document.Walk

/-!
Visitors that act on elements by their `id`. They show how a walk goes on after each kind of edit at
its own level.
-/

namespace MediaMarkup

inductive Action
  /-- Leaves the node. -/
  | keep
  /-- Leaves the node and gives no answer. -/
  | silent
  | wrap
  | replace
  /-- Inserts an element at the front of the parent. -/
  | before
  /-- Does so and gives no answer. -/
  | beforeSilent
  | remove
  /-- Inserts an ancestor behind the parent into the list of ancestors. -/
  | push
  deriving DecidableEq, Repr

/-- One call of a visitor. -/
structure Sighting where
  id : Option String
  index : Nat
  parent : String
  ancestors : List String
  mark : Option Nat
  deriving DecidableEq, Repr

namespace Action

abbrev Watching := Walk (List Sighting)

/-- Acts on the node at an index, and answers where it is then; a removed node is nowhere. -/
def act (id : String) (index : Nat) (node : Node) (walk : Watching) :
    Action → Option Nat × Watching
  | .keep => (some index, walk)
  | .silent => (none, walk)
  | .wrap =>
    let wrapped := node.wrapIn (.new "span" [("n", .text id)] "")
    (some index, { walk with place := walk.place.setChild index wrapped })
  | .replace =>
    let new := (Node.element (.new "b" [] "new") [] "").replaceBy node
    (some index, { walk with place := walk.place.setChild index new })
  | .before => (some (index + 1), insertFirst walk)
  | .beforeSilent => (none, insertFirst walk)
  | .remove => (none, { walk with place := walk.place.removeChild index })
  | .push =>
    (some index, { walk with ancestors := walk.ancestors.insertIdx 1 (.new "pushed" [] "") })
where
  insertFirst (walk : Watching) : Watching :=
    { walk with place := walk.place.insertChild 0 (.element (.new "i" [] "") [] "") }

/-- The action for an element; one without an `id` is kept. -/
def ofId (actions : Entries Action) (id : Option String) : Action :=
  (id.bind (fun id => actions.get? id)).getD .keep

/-- Notes every call and acts by the element's `id`, which is not looked at any more once `limit`
calls were noted. -/
def visitor (actions : Entries Action) (limit : Nat) : Visitor (List Sighting) Empty :=
  fun walk index =>
    match walk.place.children[index]? with
    | some (.element head children tail) =>
      let id := if walk.memory.length < limit then head.attributes.text? "id" else none
      let sighting : Sighting :=
        ⟨id, index, walk.place.head.tag, walk.ancestors.map Head.tag, head.mark⟩
      let walk := { walk with memory := walk.memory ++ [sighting] }
      .ok ((ofId actions id).act (id.getD "") index (.element head children tail) walk)
    | _ => .ok (none, walk)

/-- Enough for every element, the nodes that are inserted, and being met again. -/
def budget (limit : Nat) (tree : Node) : Nat :=
  4 * (tree.size + limit + 1)

end Action

namespace Node

def watch (tags : List String) (actions : Entries Action) (limit : Nat) (tree : Node) :
    Walked (List Sighting) Empty :=
  tree.walk (Action.visitor actions limit) tags (Action.budget limit tree) []

end Node

end MediaMarkup
