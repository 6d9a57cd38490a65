import MediaMarkup.Entries
import MediaMarkup.Text.Blank
import MediaMarkup.Text.Upper

/-!
Style declarations: reading them from an attribute's text, writing them back without spaces, and the
names that properties have in structured styles.
-/

namespace MediaMarkup.Style

/-- A property and its value, both trimmed; a stretch that lacks one of them is no declaration. -/
def declaration? (piece : List Char) : Option (String × String) :=
  match Text.cut ':' piece with
  | (_, none) => none
  | (property, some value) =>
    let property := Text.strip property
    let value := Text.strip value
    if property.isEmpty || value.isEmpty then none
    else some (.ofList property, .ofList value)

/-- The declarations of a style text: a property given twice keeps its place and takes the last
value. -/
def parse (style : String) : Entries String :=
  .ofList ((Text.pieces (· = ';') style.toList).filterMap declaration?)

def renderDeclaration (declaration : String × String) : List Char :=
  declaration.1.toList ++ ':' :: declaration.2.toList

def render (declarations : Entries String) : String :=
  .ofList (Text.join [';'] (declarations.map renderDeclaration))

/-! ## Property names in structured styles -/

def isLower (c : Char) : Bool := 'a' ≤ c && c ≤ 'z'

/-- Puts a capital for every dash that a small letter follows. -/
def joinDashes : List Char → List Char
  | '-' :: c :: rest =>
    if isLower c then c.toUpper :: joinDashes rest else '-' :: joinDashes (c :: rest)
  | c :: rest => c :: joinDashes rest
  | [] => []

/-- A vendor's name starts with a capital, but for `ms`. -/
def dropLeadingDash : List Char → List Char
  | '-' :: 'm' :: 's' :: '-' :: rest => 'm' :: 's' :: '-' :: rest
  | '-' :: c :: rest => Text.upper c ++ rest
  | ['-'] => []
  | cs => cs

/-- A custom property keeps its name; of any other the dashes are joined. -/
def camelName (property : List Char) : List Char :=
  if ['-', '-'].isPrefixOf property then property
  else joinDashes (dropLeadingDash property)

def camel (property : String) : String :=
  .ofList (camelName property.toList)

end MediaMarkup.Style
