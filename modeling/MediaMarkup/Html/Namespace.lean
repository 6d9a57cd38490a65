import MediaMarkup.Document.Node
import MediaMarkup.Format
import MediaMarkup.Media

/-!
Namespaces in HTML. An element declares the namespaces that its attributes are in, each under a
numbered name of its own.
-/

namespace MediaMarkup.Html

/-- The namespaces of attributes in the order in which they first come. -/
def namespaces (attributes : Attributes) : List (List Char) :=
  (attributes.filterMap fun entry => (QualifiedName.split? entry.1.toList).map Prod.fst).eraseDups

/-- The name by which a namespace goes in the tags of an element. -/
def numberedName (n : Nat) : List Char :=
  'n' :: 's' :: Nat.toDigits 10 n

/-- A name in a namespace, with the namespace's numbered name in front. -/
def numberName (first : Nat) (uris : List (List Char)) (name : String) : String :=
  match QualifiedName.split? name.toList with
  | some (uri, _) =>
    .ofList (QualifiedName.join (numberedName (first + uris.idxOf uri)) name.toList)
  | none => name

/-- Whether an element is a player without a source of its own. It took the place of an image, whose
namespaces were numbered first. -/
def wasConverted (head : Head) : Bool :=
  Media.tags.contains head.tag && (head.attributes.get? "src").isNone

mutual

/-- Numbers the namespaces of a document from `next` on, in document order. -/
def numberNode (next : Nat) : Node → Nat × Node
  | .element head children tail =>
    let uris := namespaces head.attributes
    let first := if wasConverted head then next + uris.length else next
    let attributes := head.attributes.map fun entry => (numberName first uris entry.1, entry.2)
    let (next, children) := numberNodes (first + uris.length) children
    (next, .element { head with attributes } children tail)
  | node => (next, node)

def numberNodes (next : Nat) : List Node → Nat × List Node
  | [] => (next, [])
  | node :: rest =>
    let (next, node) := numberNode next node
    let (next, rest) := numberNodes next rest
    (next, node :: rest)

end

/-- A document with its namespaces numbered, as it is written. -/
def numberNamespaces (tree : Node) : Node :=
  (numberNode 0 tree).2

/-- The numbered name, the namespace and the name proper of an attribute in a namespace. -/
def numberedParts? (name : String) : Option (List Char × List Char × List Char) := do
  let (numbered, rest) ← QualifiedName.split? name.toList
  let (uri, name) ← QualifiedName.split? rest
  return (numbered, uri, name)

/-- The declarations that attributes need: numbered names and namespaces. -/
def declarations (attributes : Attributes) : List (List Char × List Char) :=
  (attributes.filterMap fun entry =>
    (numberedParts? entry.1).map fun (numbered, uri, _) => (numbered, uri)).eraseDups

end MediaMarkup.Html
