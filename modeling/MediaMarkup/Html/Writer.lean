import MediaMarkup.Html.Namespace
import MediaMarkup.Html.Vocabulary
import MediaMarkup.Text.Uri

/-!
Writing HTML. Markup characters in texts and values are escaped, addresses get percent escapes, and
a value is quoted with whichever quote it does not hold.
-/

namespace MediaMarkup.Html

/-! ## Texts -/

def escapeChar : Char → List Char
  | '&' => "&amp;".toList
  | '<' => "&lt;".toList
  | '>' => "&gt;".toList
  | c => [c]

def escapeText (cs : List Char) : List Char :=
  cs.flatMap escapeChar

/-! ## Values -/

/-- The length of a text up to the end of the first occurrence of `stop` in it. -/
def lengthThrough? (stop : List Char) : List Char → Option Nat
  | [] => none
  | c :: rest =>
    if stop.isPrefixOf (c :: rest) then some stop.length
    else (lengthThrough? stop rest).map (· + 1)

/-- The length of what a server is to replace, if a text starts with it: a comment, or braces behind
an ampersand. -/
def includeLength? : List Char → Option Nat
  | '<' :: '!' :: rest =>
    if ['-', '-'].isPrefixOf rest then (lengthThrough? "-->".toList rest).map (· + 2) else none
  | '&' :: '\x7b' :: rest => (lengthThrough? ['\x7d'] rest).map (· + 2)
  | _ => none

/-- Escapes a value, once its first characters are kept. What a server is to replace is kept. -/
def escapeValueFrom : Nat → List Char → List Char
  | _, [] => []
  | kept + 1, c :: rest => c :: escapeValueFrom kept rest
  | 0, c :: rest =>
    match includeLength? (c :: rest) with
    | some length => c :: escapeValueFrom (length - 1) rest
    | none => escapeChar c ++ escapeValueFrom 0 rest

def escapeValue (cs : List Char) : List Char :=
  escapeValueFrom 0 cs

/-- The signs that addresses keep besides those that need no escape. -/
def addressSigns : List Char :=
  "\"#$%&+,/:;<=>?@[\\]^\x60\x7b|\x7d".toList ++ "-_.!~*'()".toList

/-- An address without the blanks in front of it, and with percent escapes. -/
def escapeAddress (cs : List Char) : List Char :=
  Text.percentEscape (fun c => c.isAlphanum || addressSigns.contains c)
    (cs.dropWhile (fun c => c = ' ' || c = '\t' || c = '\n' || c = '\r'))

def escapeQuote : Char → List Char
  | '"' => "&quot;".toList
  | c => [c]

/-- Double quotes, unless only single ones need no escape. -/
def quote (cs : List Char) : List Char :=
  if cs.contains '"' && !cs.contains '\'' then '\'' :: cs ++ ['\'']
  else '"' :: cs.flatMap escapeQuote ++ ['"']

/-! ## Attributes -/

/-- The value of an attribute of an element, with its equals sign. -/
def writeValue (tag name : String) (value : Attribute) : List Char :=
  let written (text : String) :=
    let escaped := escapeValue text.toList
    '=' :: quote (if isAddress tag name then escapeAddress escaped else escaped)
  match value with
  | .bare => []
  | .text text => written text
  | .expression value => written value.render

def writeAttribute (tag : String) (entry : String × Attribute) : List Char :=
  match numberedParts? entry.1 with
  | some (numbered, _, name) =>
    let name := String.ofList name
    ' ' :: numbered ++ ':' :: name.toList ++
      if isSwitch name then [] else writeValue "" "" entry.2
  | none =>
    ' ' :: entry.1.toList ++ if isSwitch entry.1 then [] else writeValue tag entry.1 entry.2

/-- In a declaration, characters beyond ASCII are written as numbers. -/
def escapeDeclared (c : Char) : List Char :=
  if c = '"' then escapeQuote c
  else if c.toNat < 0x80 then escapeChar c
  else "&#x".toList ++ (Nat.toDigits 16 c.toNat).map Char.toUpper ++ [';']

def writeDeclaration (declaration : List Char × List Char) : List Char :=
  " xmlns:".toList ++ declaration.1 ++ "=\"".toList ++
    declaration.2.flatMap escapeDeclared ++ ['"']

/-! ## Nodes -/

def startTag (head : Head) : List Char :=
  '<' :: head.tag.toList ++ (declarations head.attributes).flatMap writeDeclaration ++
    head.attributes.flatMap (writeAttribute head.tag) ++ ['>']

def endTag (tag : String) (isEmpty : Bool) : List Char :=
  if isVoid tag || (isEmpty && canLackEndTag tag) then []
  else '<' :: '/' :: tag.toList ++ ['>']

/-- The text in an element. -/
def writeText (tag : String) (text : String) : List Char :=
  if isWrittenPlain tag then text.toList else escapeText text.toList

mutual

/-- A node with its tail, inside an element with the given tag. -/
def writeNode (parent : String) : Node → List Char
  | .element head children tail =>
    let content :=
      if isVoid head.tag then []
      else writeText head.tag head.text ++ writeNodes head.tag children
    startTag head ++ content ++ endTag head.tag (head.text.isEmpty && children.isEmpty) ++
      writeText parent tail
  | .comment text tail => "<!--".toList ++ text.toList ++ "-->".toList ++ writeText parent tail
  | .instruction text tail => "<?".toList ++ text.toList ++ ['>'] ++ writeText parent tail

def writeNodes (parent : String) : List Node → List Char
  | [] => []
  | node :: rest => writeNode parent node ++ writeNodes parent rest

end

/-- A fragment is written from the element that holds it; its leading text stays as it is. -/
def writeFragment : Node → List Char
  | .element head children _ => head.text.toList ++ writeNodes head.tag children
  | _ => []

end MediaMarkup.Html
