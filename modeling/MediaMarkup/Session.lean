import MediaMarkup.Document.Path
import MediaMarkup.Enrich.Pass

/-!
Editing sessions: single edits of a document at paths, between enriching passes. An edit that cannot
be carried out leaves the document as it then is, and the session goes on.
-/

namespace MediaMarkup

inductive Edit
  /-- An enriching pass with the given options. -/
  | enrich (options : Entries Value)
  | unravel
  | merge (path : Path) (derived : AttributeSet)
  | setAttribute (path : Path) (name : String) (value : Attribute)
  | eraseAttribute (path : Path) (name : String)
  | setText (path : Path) (text : String)
  /-- Inserts a child, at the end if the index is behind it. -/
  | insert (path : Path) (index : Nat) (node : Node)
  | remove (path : Path) (index : Nat)
  | wrap (path : Path) (index : Nat) (head : Head)
  | replace (path : Path) (index : Nat) (node : Node)
  /-- Puts any number of nodes, each on a line of its own, in the place of a child. -/
  | splice (path : Path) (index : Nat) (pieces : List Node)
  deriving Repr

inductive EditError
  | path (cause : PathError)
  | settings (cause : Settings.Error)
  | enrich (cause : Stop EnrichError)
  | merge (cause : MergeError)
  deriving DecidableEq, Repr

namespace Edit

/-- Replaces a child by other nodes. -/
def spliceChild (index : Nat) (pieces : Node → List Node) (children : List Node) :
    Option (List Node) :=
  children[index]?.map fun child =>
    children.take index ++ pieces child ++ children.drop (index + 1)

/-- Edits the element at a path. -/
def onElement (path : Path) (edit : Node → Except (EditError × Node) Node) (tree : Node) :
    Except (EditError × Node) Node :=
  match tree.at? path with
  | .error cause => .error (.path cause, tree)
  | .ok node =>
    match edit node with
    | .ok edited => .ok (tree.editAt (fun _ => edited) path)
    | .error (cause, left) => .error (cause, tree.editAt (fun _ => left) path)

def onHead (path : Path) (edit : Head → Head) (tree : Node) : Except (EditError × Node) Node :=
  onElement path (fun node => .ok (node.mapHead edit)) tree

/-- Replaces a child of the element at a path. -/
def onChild (path : Path) (index : Nat) (pieces : Node → List Node) (tree : Node) :
    Except (EditError × Node) Node :=
  onElement path (fun node =>
    match spliceChild index pieces node.children with
    | some children => .ok (node.mapChildren fun _ => children)
    | none => .error (.path .noSuchChild, node)) tree

def runEnrich (options : Entries Value) (tree : Node) : Except (EditError × Node) Node :=
  match Settings.ofOptions options with
  | .error cause => .error (.settings cause, tree)
  | .ok settings =>
    let enriched := tree.enrich settings
    match enriched.failure with
    | some cause => .error (.enrich cause, enriched.tree)
    | none => .ok enriched.tree

def runMerge (derived : AttributeSet) (node : Node) : Except (EditError × Node) Node :=
  match node.head? with
  | none => .ok node
  | some head =>
    let merged := head.attributes.merge .data derived
    let edited := node.mapHead fun head => { head with attributes := merged.attributes }
    match merged.failure with
    | some cause => .error (.merge cause, edited)
    | none => .ok edited

/-- The document after an edit, or the error and the document as it was left. -/
def run (tree : Node) : Edit → Except (EditError × Node) Node
  | .enrich options => runEnrich options tree
  | .unravel => .ok tree.unravel
  | .merge path derived => onElement path (runMerge derived) tree
  | .setAttribute path name value =>
    onHead path (fun head => { head with attributes := head.attributes.put name value }) tree
  | .eraseAttribute path name =>
    onHead path (fun head => { head with attributes := head.attributes.erase name }) tree
  | .setText path text => onHead path (fun head => { head with text }) tree
  | .insert path index node =>
    onElement path (fun parent => .ok (parent.mapChildren fun children =>
      children.take index ++ node :: children.drop index)) tree
  | .remove path index => onChild path index (fun _ => []) tree
  | .wrap path index head => onChild path index (fun node => [node.wrapIn head]) tree
  | .replace path index node => onChild path index (fun old => [node.replaceBy old]) tree
  | .splice path index pieces =>
    onChild path index (fun old => Paragraph.onLines old.tail pieces) tree

end Edit

/-- The document after every edit of a session, and what went wrong with it. -/
def session (tree : Node) : List Edit → List (Option EditError × Node)
  | [] => []
  | edit :: rest =>
    match edit.run tree with
    | .ok next => (none, next) :: session next rest
    | .error (cause, left) => (some cause, left) :: session left rest

end MediaMarkup
