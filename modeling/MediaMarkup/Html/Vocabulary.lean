/-!
What is known about the elements and attributes of HTML by their names: how they are written, what
their text may hold, and which elements end others.
-/

namespace MediaMarkup.Html

/-! ## Attributes -/

/-- Attributes that are on or off, and never written with a value. -/
def switches : List String := [
  "checked", "compact", "declare", "defer", "disabled", "ismap", "multiple", "nohref", "noresize",
  "noshade", "nowrap", "readonly", "selected"]

def isSwitch (name : String) : Bool :=
  switches.contains (name.map Char.toLower)

/-- Whether the value of an attribute is an address. -/
def isAddress (tag name : String) : Bool :=
  let name := name.map Char.toLower
  ["action", "href", "src"].contains name || (name = "name" && tag = "a")

/-! ## Content -/

/-- Elements that never hold anything, and have no end tag. -/
def voidTags : List String := [
  "area", "base", "basefont", "br", "col", "frame", "hr", "img", "input", "isindex", "link", "meta",
  "param"]

def isVoid (tag : String) : Bool :=
  voidTags.contains tag

/-- Elements that are written without an end tag when they hold nothing. -/
def canLackEndTag (tag : String) : Bool :=
  tag = "li"

/-- What the text of an element is read for. -/
inductive Content
  /-- Tags, comments and character references. -/
  | markup
  /-- Character references only. -/
  | references
  /-- Nothing. -/
  | plain
  deriving DecidableEq, Repr

def contentOf (tag : String) : Content :=
  if ["textarea", "title"].contains tag then .references
  else if ["iframe", "noembed", "noframes", "script", "style", "xmp"].contains tag then .plain
  else .markup

/-- Elements whose text is written as it is. -/
def isWrittenPlain (tag : String) : Bool :=
  ["script", "style"].contains tag

/-! ## Ends -/

def headings : List String := ["h1", "h2", "h3", "h4", "h5", "h6"]

def tableParts : List String := ["tbody", "td", "tfoot", "th", "tr"]

/-- The elements that cannot stand inside an open one, and so end it. -/
def ends (tag : String) : List String :=
  match tag with
  | "a" => ["a", "fieldset", "table", "td", "th"]
  | "address" => ["dd", "dl", "dt", "form", "li", "ul"]
  | "b" => ["center", "p", "td", "th"]
  | "caption" => ["col", "colgroup", "tbody", "tfoot", "thead", "tr"]
  | "col" => ["col", "colgroup", "tbody", "tfoot", "thead", "tr"]
  | "colgroup" => ["colgroup", "tbody", "tfoot", "thead", "tr"]
  | "dd" => ["dt"]
  | "dir" => ["dd", "dl", "dt", "form", "ul"]
  | "dl" => ["form", "li"]
  | "dt" => ["dd", "dl"]
  | "font" => ["center", "td", "th"]
  | "form" => ["form"]
  | "h1" | "h2" | "h3" | "h4" | "h5" | "h6" => ["fieldset", "form", "li", "p", "table"]
  | "hr" => ["form"]
  | "i" => ["center", "p"]
  | "li" => ["li"]
  | "legend" => ["fieldset"]
  | "menu" => ["dd", "dl", "dt", "form", "ul"]
  | "ol" => ["form"]
  | "option" => ["optgroup", "option"]
  | "p" => headings ++ tableParts ++ [
      "address", "blockquote", "caption", "center", "col", "colgroup", "dd", "dir", "div", "dl",
      "dt", "fieldset", "form", "frameset", "hr", "li", "listing", "menu", "multicol", "ol", "p",
      "pre", "table", "title", "ul", "xmp"]
  | "listing" | "pre" | "xmp" => ["dd", "dl", "dt", "fieldset", "form", "li", "table", "ul"]
  | "big" | "s" | "small" | "strike" | "tt" => ["p"]
  | "span" => ["td", "th"]
  | "tbody" => ["tbody", "tfoot"]
  | "td" | "th" => tableParts
  | "tfoot" => ["tbody"]
  | "thead" => ["tbody", "tfoot"]
  | "tr" => ["tbody", "tfoot", "tr"]
  | "u" => ["p", "td", "th"]
  | "ul" => ["address", "form", "menu", "ol", "pre"]
  | _ => []

/-- An end tag does not reach beyond open elements of a higher rank than its own. -/
def rank (tag : String) : Nat :=
  match tag with
  | "div" => 150
  | "td" | "th" => 160
  | "tr" => 170
  | "tbody" | "tfoot" | "thead" => 180
  | "table" => 190
  | _ => 100

end MediaMarkup.Html
