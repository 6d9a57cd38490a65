import MediaMarkup.Attribute
import MediaMarkup.Html.Reference
import MediaMarkup.Html.Vocabulary

/-!
The tokens of HTML: tags, comments and the texts between them. Any text has tokens; what opens no
markup is text. Each reader answers with what it read and the text that remains.
-/

namespace MediaMarkup.Html

inductive Token
  /-- A start tag; `closed` if it ends its element, too. -/
  | start (tag : String) (attributes : Attributes) (closed : Bool)
  | stop (tag : String)
  | comment (text : String)
  | text (text : String)
  deriving Repr

/-! ## Line breaks -/

/-- Every line break is one line feed, and there is no null character. -/
def normalize : List Char → List Char
  | '\r' :: '\n' :: rest => '\n' :: normalize rest
  | '\r' :: rest => '\n' :: normalize rest
  | '\x00' :: rest => '\ufffd' :: normalize rest
  | c :: rest => c :: normalize rest
  | [] => []

def isSpace (c : Char) : Bool :=
  c = ' ' || c = '\t' || c = '\n' || c = '\x0c'

/-! ## Texts -/

/-- Whether a tag or a comment starts with `<` and the given text. -/
def opensMarkup : List Char → Bool
  | c :: _ => c.isAlpha || c = '/' || c = '!' || c = '?'
  | [] => false

/-- The text up to the next tag or comment. -/
def readText : List Char → List Char × List Char
  | [] => ([], [])
  | c :: rest =>
    if c = '<' && opensMarkup rest then ([], c :: rest)
    else
      let (text, rest) := readText rest
      (c :: text, rest)

/-- Whether a text starts with the end tag of an element. -/
def startsEndTag (tag : List Char) : List Char → Bool
  | '<' :: '/' :: rest =>
    (rest.take tag.length).map Char.toLower = tag &&
      (rest.drop tag.length).head?.any (fun c => isSpace c || c = '/' || c = '>')
  | _ => false

/-- The text up to the end tag of its element. -/
def readPlain (tag : List Char) : List Char → List Char × List Char
  | [] => ([], [])
  | c :: rest =>
    if startsEndTag tag (c :: rest) then ([], c :: rest)
    else
      let (text, rest) := readPlain tag rest
      (c :: text, rest)

/-- The text in an element up to the next token. -/
def readContent (tag : String) (cs : List Char) : List Char × List Char :=
  match contentOf tag with
  | .markup => let (text, rest) := readText cs; (decode false text, rest)
  | .references => let (text, rest) := readPlain tag.toList cs; (decode false text, rest)
  | .plain => readPlain tag.toList cs

/-! ## Comments -/

def readCommentEnd : List Char → List Char × List Char
  | '-' :: '-' :: '>' :: rest | '-' :: '-' :: '!' :: '>' :: rest => ([], rest)
  | c :: rest =>
    let (text, rest) := readCommentEnd rest
    (c :: text, rest)
  | [] => ([], [])

/-- The text of a comment, from behind its first dashes on. -/
def readComment : List Char → List Char × List Char
  | '>' :: rest | '-' :: '>' :: rest => ([], rest)
  | cs => readCommentEnd cs

/-- The text up to the end of a tag. -/
def readTagText (cs : List Char) : List Char × List Char :=
  (cs.takeWhile (· ≠ '>'), (cs.dropWhile (· ≠ '>')).drop 1)

/-! ## Tags -/

/-- A name in lower case: all up to a blank, a slash or the end of the tag. -/
def readTagName (cs : List Char) : List Char × List Char :=
  let goesOn (c : Char) : Bool := !isSpace c && c ≠ '/' && c ≠ '>'
  ((cs.takeWhile goesOn).map Char.toLower, cs.dropWhile goesOn)

/-- The name of an attribute, where an equals sign can only come first. -/
def readAttributeName : List Char → List Char × List Char
  | [] => ([], [])
  | first :: rest =>
    let goesOn (c : Char) : Bool := !isSpace c && c ≠ '/' && c ≠ '>' && c ≠ '='
    (first.toLower :: (rest.takeWhile goesOn).map Char.toLower, rest.dropWhile goesOn)

/-- A value behind the equals sign, with or without quotes. -/
def readValue (cs : List Char) : List Char × List Char :=
  match cs.dropWhile isSpace with
  | [] => ([], [])
  | quote :: rest =>
    if quote = '"' || quote = '\'' then
      (rest.takeWhile (· ≠ quote), (rest.dropWhile (· ≠ quote)).drop 1)
    else
      let goesOn (c : Char) : Bool := !isSpace c && c ≠ '>'
      ((quote :: rest).takeWhile goesOn, (quote :: rest).dropWhile goesOn)

/-- The value of an attribute. A switch without one has its own name for a value. -/
def readAttributeValue (name : String) (cs : List Char) : Attribute × List Char :=
  match cs.dropWhile isSpace with
  | '=' :: rest =>
    let (value, rest) := readValue rest
    (.text (.ofList (decode true value)), rest)
  | rest => (if isSwitch name then .text name else .bare, rest)

/-- The attributes up to the end of a tag, if it has one, and whether a slash precedes that. Of two
attributes with one name the first counts. -/
def readAttributes : Nat → Attributes → List Char → Option (Attributes × Bool × List Char)
  | 0, _, _ => none
  | bound + 1, attributes, cs =>
    match cs.dropWhile isSpace with
    | [] => none
    | '>' :: rest => some (attributes, false, rest)
    | '/' :: '>' :: rest => some (attributes, true, rest)
    | '/' :: rest => readAttributes bound attributes rest
    | cs =>
      let (name, rest) := readAttributeName cs
      let name := String.ofList name
      let (value, rest) := readAttributeValue name rest
      let attributes :=
        if (attributes.get? name).isSome then attributes else attributes.put name value
      readAttributes bound attributes rest

/-- Reads a tag. One that does not end is dropped with all that follows. -/
def readTag (token : String → Attributes → Bool → Token) (cs : List Char) :
    Option Token × List Char :=
  let (name, rest) := readTagName cs
  match readAttributes (rest.length + 1) [] rest with
  | some (attributes, closed, rest) => (some (token (.ofList name) attributes closed), rest)
  | none => (none, [])

def isDoctype (cs : List Char) : Bool :=
  (cs.take 7).map Char.toLower = "doctype".toList

/-- A comment up to the end of a tag. -/
def readTagComment (cs : List Char) : Option Token × List Char :=
  let (text, rest) := readTagText cs
  (some (.comment (.ofList text)), rest)

/-- What stands behind `<` where markup opens. Some of it leaves no token. -/
def readMarkup : List Char → Option Token × List Char
  | '!' :: '-' :: '-' :: rest =>
    let (text, rest) := readComment rest
    (some (.comment (.ofList text)), rest)
  | '!' :: rest => if isDoctype rest then (none, (readTagText rest).2) else readTagComment rest
  | '/' :: '>' :: rest => (none, rest)
  | '/' :: rest =>
    if rest.head?.any Char.isAlpha then readTag (fun tag _ _ => .stop tag) rest
    else readTagComment rest
  | '?' :: rest => readTagComment ('?' :: rest)
  | rest => readTag .start rest

/-! ## All tokens -/

/-- The element whose text is read behind a token, if it holds other than markup. -/
def contentBehind (tag : String) : Option Token → String
  | some (.start tag _ false) => tag
  | some (.start _ _ true) | some (.stop _) => ""
  | _ => tag

/-- The tokens of a text in an element. -/
def readTokens : Nat → String → List Char → List Token
  | 0, _, _ => []
  | bound + 1, tag, cs =>
    let (text, rest) := readContent tag cs
    let behind :=
      match rest with
      | [] => []
      | _ :: rest =>
        let (token, rest) := readMarkup rest
        token.toList ++ readTokens bound (contentBehind tag token) rest
    if text.isEmpty then behind else .text (.ofList text) :: behind

/-- The tokens of a whole text. Every step reads a character, so that the bound suffices. -/
def tokens (cs : List Char) : List Token :=
  readTokens (cs.length + 1) "" cs

end MediaMarkup.Html
