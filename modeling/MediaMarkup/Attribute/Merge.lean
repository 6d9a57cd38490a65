import MediaMarkup.Format
import MediaMarkup.Attribute.Style

/-!
Merging a derived attribute set into the attributes of an element: class tokens are united, style
declarations are merged property by property, every other value replaces the old one. A style keeps
its form, text or expression.
-/

namespace MediaMarkup

/-- A value of an attribute set. -/
inductive Derived
  | text (value : String)
  | tokens (tokens : List String)
  | declarations (declarations : Entries String)
  deriving DecidableEq, Repr

abbrev AttributeSet := Entries Derived

/-! ## Classes -/

namespace Classes

/-- The tokens of a class text. -/
def split (value : String) : List String :=
  (Text.words value.toList).map .ofList

def join (tokens : List String) : String :=
  .ofList (Text.join [' '] (tokens.map String.toList))

/-- The first of every token, in order of appearance. -/
def distinct (tokens : List String) : List String :=
  tokens.foldl (fun seen token => if token ∈ seen then seen else seen ++ [token]) []

def merge (existing : String) (new : List String) : String :=
  join (distinct (split existing ++ new))

end Classes

/-! ## Styles -/

namespace Style

def mergeText (existing : String) (declarations : Entries String) : String :=
  render ((parse existing).putAll declarations)

def mergeExpression (existing : Expression) (declarations : Entries String) : Expression :=
  let named := declarations.map fun entry => (camel entry.1, Value.text entry.2)
  ⟨existing.toEntries.putAll named⟩

def merge (existing : Option Attribute) (declarations : Entries String) : Attribute :=
  match existing with
  | some (.expression value) => .expression (mergeExpression value declarations)
  | some (.text value) => .text (mergeText value declarations)
  | some .bare | none => .text (mergeText "" declarations)

end Style

/-! ## Attribute sets -/

inductive MergeError
  /-- The element's class is an expression, which has no tokens. -/
  | classIsExpression
  /-- The derived style is a text. -/
  | styleIsText
  /-- The derived style is a list. -/
  | styleIsList
  /-- The document cannot take the name or the value. -/
  | format (cause : FormatError)
  deriving DecidableEq, Repr

namespace MergeError

def message : MergeError → String
  | .classIsExpression => "'StructuredExpression' object has no attribute 'split'"
  | .styleIsText => "'str' object has no attribute 'items'"
  | .styleIsList => "'list' object has no attribute 'items'"
  | .format cause => cause.message

end MergeError

namespace Derived

def isEmpty : Derived → Bool
  | .text value => value.isEmpty
  | .tokens items => items.isEmpty
  | .declarations entries => entries.isEmpty

/-- The class tokens that a value holds: a text holds its characters. -/
def classTokens : Derived → List String
  | .text value => value.toList.map String.singleton
  | .tokens items => items
  | .declarations entries => entries.names

def plainText : Derived → String
  | .text value => value
  | value => Classes.join value.classTokens

end Derived

namespace Attributes

def mergeClass (value : Derived) (attributes : Attributes) : Except MergeError Attribute :=
  match Entries.get? "class" attributes with
  | some (.expression _) => .error .classIsExpression
  | some (.text existing) => .ok (.text (Classes.merge existing value.classTokens))
  | some .bare | none => .ok (.text (Classes.merge "" value.classTokens))

def mergeStyle (value : Derived) (attributes : Attributes) : Except MergeError Attribute :=
  match value with
  | .text _ => .error .styleIsText
  | .tokens _ => .error .styleIsList
  | .declarations declarations =>
    .ok (Style.merge (Entries.get? "style" attributes) declarations)

/-- The value that an attribute is to have. -/
def mergeValue (name : String) (value : Derived) (attributes : Attributes) :
    Except MergeError Attribute :=
  if name = "class" then mergeClass value attributes
  else if name = "style" then mergeStyle value attributes
  else .ok (.text value.plainText)

/-- Writes one derived value. -/
def mergeEntry (format : Format) (name : String) (value : Derived) (attributes : Attributes) :
    Except MergeError Attributes :=
  match mergeValue name value attributes with
  | .error cause => .error cause
  | .ok merged => (format.put name merged attributes).mapError .format

theorem mergeEntry_data (name : String) (value : Derived) (attributes : Attributes) :
    mergeEntry .data name value attributes =
      (mergeValue name value attributes).map (Entries.put name · attributes) := by
  unfold mergeEntry
  cases mergeValue name value attributes with
  | error cause => rfl
  | ok merged =>
    have written := Format.put_data name merged attributes
    show (Format.put .data name merged attributes).mapError MergeError.format = _
    rw [written]
    rfl

/-- An empty class or style writes nothing. -/
def isSkipped (name : String) (value : Derived) : Bool :=
  (name = "class" || name = "style") && value.isEmpty

/-- The attributes after a merge, or where it failed, with the names that were written. -/
structure Merged where
  attributes : Attributes
  written : List String
  failure : Option MergeError
  deriving Repr

def merge (format : Format) (attributes : Attributes) : AttributeSet → Merged
  | [] => ⟨attributes, [], none⟩
  | (name, value) :: rest =>
    if isSkipped name value then merge format attributes rest
    else
      match attributes.mergeEntry format name value with
      | .error failure => ⟨attributes, [], some failure⟩
      | .ok next =>
        let merged := merge format next rest
        { merged with written := name :: merged.written }

end Attributes

end MediaMarkup
