import MediaMarkup.Title.Token
import MediaMarkup.Event

/-!
A title may carry directives after a `>`: flags such as `lazy`, and pairs such as `width=300`. The
part before it, trimmed, is what remains of the title.
-/

namespace MediaMarkup

inductive Directive
  | flag (key : String)
  | pair (key value : String)
  /-- A pair that lacks its value; no title holds one. -/
  | unset (key : String)
  deriving DecidableEq, Repr

namespace Directive

def key : Directive → String
  | .flag key => key
  | .pair key _ => key
  | .unset key => key

def value? : Directive → Option String
  | .pair _ value => some value
  | _ => none

def isFlag : Directive → Bool
  | .flag _ => true
  | _ => false

/-- Characters that an attribute name must not have. -/
def isInvalidInKey (c : Char) : Bool :=
  Text.isBlank c || c = '"' || c = '\'' || c = '<' || c = '>' || c = '/' || c = '=' ||
  c.toNat < 0x20 || c.toNat = 0x7F

def isValidKey (key : List Char) : Bool :=
  !key.isEmpty && !key.any isInvalidInKey

/-- A token is a flag, or a pair at its first equals sign. -/
def ofToken? (token : List Char) : Option Directive :=
  let (key, value) := Text.cut '=' token
  if isValidKey key then
    match value with
    | none => some (.flag (.ofList key))
    | some value => some (.pair (.ofList key) (.ofList value))
  else none

end Directive

namespace Title

def readDirectives (text : List Char) : List Directive :=
  (tokenTexts text).filterMap Directive.ofToken?

/-- All lost tokens are reported first, then those that are no directive. -/
def directiveEvents (text : List Char) : List Event :=
  let lost := (tokens text).filterMap Token.unclosed?
  let malformed := (tokenTexts text).filter (fun token => (Directive.ofToken? token).isNone)
  lost.map (fun token => .unclosedQuote (.ofList token)) ++
    malformed.map (fun token => .malformedDirective (.ofList token))

/-- What is left of a title, and the directive text behind its first `>`. The title is absent when
it is blank there; without a `>` it stays as it is. -/
def split (title : List Char) : Option (List Char) × Option (List Char) :=
  match Text.cut '>' title with
  | (_, none) => (some title, none)
  | (caption, some text) =>
    let caption := Text.strip caption
    (if caption.isEmpty then none else some caption, some text)

end Title

/-- A title taken apart. -/
structure Title where
  text : Option String
  directives : List Directive
  events : List Event
  deriving DecidableEq, Repr

namespace Title

def absent : Title := ⟨none, [], []⟩

def parse (title : String) : Title :=
  let (text, directiveText) := split title.toList
  let directiveText := directiveText.getD []
  ⟨text.map .ofList, readDirectives directiveText, directiveEvents directiveText⟩

def parse? : Option String → Title
  | some title => parse title
  | none => absent

end Title

end MediaMarkup
