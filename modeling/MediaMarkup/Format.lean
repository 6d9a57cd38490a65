import MediaMarkup.Attribute
import MediaMarkup.Text.Quoted
import MediaMarkup.Text.Uri

/-!
What a document is kept as. Plain data takes every text and every name. Markup takes no text with
characters that it could not hold, and reads a name that starts with a namespace in braces as one of
two parts.
-/

namespace MediaMarkup

inductive Format
  | data
  | markup
  deriving DecidableEq, Repr

/-- Why a document cannot take a text or a name. -/
inductive FormatError
  /-- A character that is a control or none at all. -/
  | character
  /-- A namespace whose brace is not closed. -/
  | openNamespace
  /-- A namespace without a name behind it. -/
  | emptyName
  | badNamespace (uri : String)
  deriving DecidableEq, Repr

namespace FormatError

def message : FormatError → String
  | .character => "All strings must be XML compatible: Unicode or ASCII, " ++
      "no NULL bytes or control characters"
  | .openNamespace => "Invalid tag name"
  | .emptyName => "Empty tag name"
  | .badNamespace uri => "Invalid namespace URI " ++ .ofList (Text.quoted uri.toList)

end FormatError

/-! ## Names in a namespace -/

namespace QualifiedName

/-- The one name that stands for both parts. No other name in markup holds a blank. -/
def join (uri name : List Char) : List Char :=
  uri ++ ' ' :: name

/-- The parts of a name in a namespace. -/
def split? (name : List Char) : Option (List Char × List Char) :=
  match name.dropWhile (· ≠ ' ') with
  | ' ' :: rest => some (name.takeWhile (· ≠ ' '), rest)
  | _ => none

end QualifiedName

namespace Format

/-! ## Texts -/

def isMarkupChar (c : Char) : Bool :=
  (0x20 ≤ c.toNat && c.toNat ≠ 0xFFFE && c.toNat ≠ 0xFFFF) || c = '\t' || c = '\n' || c = '\r'

def checkText (format : Format) (text : String) : Except FormatError Unit :=
  if format = .markup && !text.toList.all isMarkupChar then .error .character else .ok ()

def checkTexts (format : Format) (texts : List String) : Except FormatError Unit :=
  texts.forM format.checkText

/-- The texts of an attribute's value. -/
def checkValue (format : Format) (value : Attribute) : Except FormatError Unit :=
  match value.text? with
  | some text => format.checkText text
  | none => .ok ()

/-! ## Names -/

/-- Reads a name that starts with a brace. An empty namespace is none. -/
def readBraced (rest : List Char) : Except FormatError (List Char) :=
  match rest.dropWhile (· ≠ '\x7d') with
  | [] => .error .openNamespace
  | [_] => .error .emptyName
  | _ :: name =>
    let uri := rest.takeWhile (· ≠ '\x7d')
    .ok (if uri.isEmpty then name else QualifiedName.join uri name)

/-- The name under which an attribute is kept. -/
def readName (format : Format) (name : String) : Except FormatError String :=
  match format with
  | .data => .ok name
  | .markup => do
    format.checkText name
    match QualifiedName.split? name.toList, name.toList with
    | none, '\x7b' :: rest => return .ofList (← readBraced rest)
    | _, _ => return name

/-! ## Attributes -/

/-- Sets an attribute of an element. -/
def put (format : Format) (name : String) (value : Attribute) (attributes : Attributes) :
    Except FormatError Attributes := do
  let name ← format.readName name
  format.checkValue value
  return Entries.put name value attributes

def checkNamespace (name : String) : Except FormatError Unit :=
  match QualifiedName.split? name.toList with
  | some (uri, _) =>
    if Text.isUriReference uri then .ok () else .error (.badNamespace (.ofList uri))
  | none => .ok ()

/-- Gives an attribute to a new element, unless it already has one of that name. -/
def give (attributes : Attributes) (entry : String × Attribute) :
    Except FormatError Attributes := do
  let name ← Format.markup.readName entry.1
  if (Entries.get? name attributes).isSome then return attributes
  Format.markup.checkValue entry.2
  checkNamespace name
  return Entries.put name entry.2 attributes

/-- Attributes as a new element takes them over. -/
def copy (format : Format) (attributes : Attributes) : Except FormatError Attributes :=
  match format with
  | .data => .ok attributes.copied
  | .markup => attributes.copied.foldlM give []

/-! ## Plain data -/

theorem checkText_data (text : String) : checkText .data text = .ok () := rfl

theorem put_data (name : String) (value : Attribute) (attributes : Attributes) :
    put .data name value attributes = .ok (Entries.put name value attributes) := by
  cases value <;> rfl

theorem copy_data (attributes : Attributes) : copy .data attributes = .ok attributes.copied := rfl

end Format

end MediaMarkup
