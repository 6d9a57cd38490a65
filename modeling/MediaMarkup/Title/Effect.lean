import MediaMarkup.Title.Directive
import MediaMarkup.Attribute.Merge
import MediaMarkup.Text.Digit

/-!
What directives mean: each stands for effects on the element that bears the title, and the effects
of a title fold into one attribute set.
-/

namespace MediaMarkup

inductive Category
  | id
  | classToken
  | style
  | dimension
  | boolean
  | other
  /-- An attribute that is named by a pair without a value. -/
  | unset
  deriving DecidableEq, Repr

namespace Category

def name : Category → String
  | .id => "id"
  | .classToken => "class"
  | .style => "style"
  | .dimension => "dimension"
  | .boolean => "boolean"
  | .other | .unset => "attribute"

/-- A name that is none of the categories counts as a plain attribute. -/
def ofName (name : String) : Category :=
  ([Category.id, .classToken, .style, .dimension, .boolean].find? (·.name = name)).getD .other

end Category

structure Effect where
  category : Category
  name : String
  value : String
  deriving DecidableEq, Repr

/-- What can go wrong when a title is turned into attributes. -/
inductive TitleError
  /-- A directive has no key. -/
  | emptyKey
  /-- A pair lacks the value that its key has to have. -/
  | noValue (key : String)
  /-- A class token comes after the class was set to a text. -/
  | classIsText
  /-- A declaration comes after the style was set to a text. -/
  | styleIsText
  deriving DecidableEq, Repr

namespace TitleError

def message : TitleError → String
  | .emptyKey => "string index out of range"
  | .noValue "style" => "'NoneType' object has no attribute 'replace'"
  | .noValue "class" => "'NoneType' object has no attribute 'split'"
  | .noValue _ => "expected string or bytes-like object, got 'NoneType'"
  | .classIsText => "'str' object has no attribute 'append'"
  | .styleIsText => "'str' object does not support item assignment"

end TitleError

namespace Effect

/-! ## Tables -/

def globalFlags : List String := ["hidden", "inert", "autofocus"]

def playerFlags : List String := ["autoplay", "controls", "loop", "muted"]

/-- The flags that are truth values on an element of a kind. -/
def booleanFlags (kind : String) : List String :=
  match kind with
  | "img" => globalFlags ++ ["ismap"]
  | "video" => globalFlags ++ playerFlags ++
      ["playsinline", "disablepictureinpicture", "disableremoteplayback"]
  | "audio" => globalFlags ++ playerFlags ++ ["disableremoteplayback"]
  | _ => globalFlags

/-- The flags that stand for an attribute with a value. -/
def flagAliases : List (String × String × String) := [("lazy", "loading", "lazy")]

/-! ## Sizes -/

/-- A run of digits with its unit, `px` or `%`, and what follows. A unit is only read behind a
digit. -/
def takeSize (cs : List Char) : List Char × List Char :=
  let digits := cs.takeWhile Text.isDecimal
  let rest := cs.dropWhile Text.isDecimal
  if digits.isEmpty then ([], cs)
  else
    match rest with
    | 'p' :: 'x' :: rest => (digits ++ ['p', 'x'], rest)
    | '%' :: rest => (digits ++ ['%'], rest)
    | _ => (digits, rest)

/-- The end of a text, which one final line break does not move. -/
def atEnd (cs : List Char) : Bool :=
  cs = [] || cs = ['\n']

/-- Width and height of a flag such as `400x300px`, each of which may be empty. -/
def dimensions? (key : List Char) : Option (List Char × List Char) :=
  let (width, rest) := takeSize key
  match rest with
  | c :: rest =>
    if c = 'x' || c = '×' then
      let (height, rest) := takeSize rest
      if atEnd rest then some (width, height) else none
    else none
  | [] => none

def isSize (value : List Char) : Bool :=
  let (size, rest) := takeSize value
  !size.isEmpty && atEnd rest

/-- Pixels are written without their unit. -/
def plainSize (value : List Char) : List Char :=
  if ['p', 'x'].isSuffixOf value then value.take (value.length - 2) else value

def ofSize (name : String) (size : List Char) : List Effect :=
  if size.isEmpty then [] else [⟨.dimension, name, .ofList (plainSize size)⟩]

end Effect

/-! ## Reading directives -/

/-- What one directive comes to. -/
inductive Reading
  | effects (list : List Effect)
  /-- The size of the element, which only the first flag of that form gives. -/
  | size (list : List Effect)
  | malformed (key : String)
  | styleWithoutValue
  | failed (cause : TitleError)
  deriving DecidableEq, Repr

namespace Reading

def effectsOf : Reading → List Effect
  | .effects list => list
  | .size list => list
  | _ => []

def event? : Reading → Option Event
  | .malformed key => some (.malformedDirective key)
  | .styleWithoutValue => some .styleWithoutValue
  | _ => none

def failure? : Reading → Option TitleError
  | .failed cause => some cause
  | _ => none

/-- A key behind `#` or `.` names an id or a class token. -/
def ofMarked (mark : Char) (name : List Char) (directive : Directive) : Reading :=
  if !directive.isFlag || name.isEmpty then .malformed directive.key
  else if mark = '#' then .effects [⟨.id, "id", .ofList name⟩]
  else .effects [⟨.classToken, "class", .ofList name⟩]

def spaced (value : String) : String :=
  .ofList (Text.substitute '~' ' ' value.toList)

def ofStyle (value : String) : Reading :=
  .effects ((Style.parse (spaced value)).map fun (property, value) => ⟨.style, property, value⟩)

def ofClass (value : String) : Reading :=
  .effects ((Classes.split value).map fun token => ⟨.classToken, "class", token⟩)

/-- A width or height that is no size becomes a style declaration. -/
def ofLength (name value : String) : Reading :=
  if Effect.isSize value.toList then .effects (Effect.ofSize name value.toList)
  else if value.isEmpty then .effects []
  else .effects [⟨.style, name, spaced value⟩]

def ofPlainFlag (kind key : String) : Reading :=
  match Effect.flagAliases.lookup key with
  | some (name, value) => .effects [⟨.other, name, value⟩]
  | none =>
    if key ∈ Effect.booleanFlags kind then .effects [⟨.boolean, key, ""⟩]
    else .effects [⟨.other, key, ""⟩]

/-- A flag that may give the size, unless an earlier one has. -/
def ofFlag (kind : String) (sized : Bool) (key : String) : Reading :=
  match if sized then none else Effect.dimensions? key.toList with
  | some (width, height) =>
    if width.isEmpty && height.isEmpty then ofPlainFlag kind key
    else .size (Effect.ofSize "width" width ++ Effect.ofSize "height" height)
  | none => if key = "style" then .styleWithoutValue else ofPlainFlag kind key

def ofPair (key value : String) : Reading :=
  if key = "style" then ofStyle value
  else if key = "class" then ofClass value
  else if key = "width" || key = "height" then ofLength key value
  else .effects [⟨.other, key, value⟩]

/-- Where a value is looked into, it cannot be missing. -/
def ofUnset (key : String) : Reading :=
  if key ∈ ["style", "class", "width", "height"] then .failed (.noValue key)
  else .effects [⟨.unset, key, ""⟩]

def ofDirective (kind : String) (sized : Bool) (directive : Directive) : Reading :=
  match directive.key.toList with
  | [] => .failed .emptyKey
  | c :: name =>
    if c = '#' || c = '.' then ofMarked c name directive
    else
      match directive with
      | .flag key => ofFlag kind sized key
      | .pair key value => ofPair key value
      | .unset key => ofUnset key

/-- The directives in order, up to one that fails. -/
def all (kind : String) : Bool → List Directive → List Reading
  | _, [] => []
  | sized, directive :: rest =>
    match ofDirective kind sized directive with
    | .failed cause => [.failed cause]
    | .size list => .size list :: all kind true rest
    | reading => reading :: all kind sized rest

end Reading

namespace Directive

def readings (kind : String) (directives : List Directive) : List Reading :=
  Reading.all kind false directives

/-- The effects of directives on an element of a kind, in their order. -/
def interpret (kind : String) (directives : List Directive) : Except TitleError (List Effect) :=
  let readings := readings kind directives
  match readings.findSome? Reading.failure? with
  | some cause => .error cause
  | none => .ok (readings.flatMap Reading.effectsOf)

def interpretEvents (kind : String) (directives : List Directive) : List Event :=
  (readings kind directives).filterMap Reading.event?

end Directive

/-! ## Folding effects -/

namespace AttributeSet

/-- A token that is already there is not added again. A text has no place for a token, though one
that occurs in it goes unnoticed. -/
def addClass (token : String) (set : AttributeSet) : Except TitleError AttributeSet :=
  match Entries.get? "class" set with
  | some (.text text) =>
    if Text.occursIn token.toList text.toList then .ok set else .error .classIsText
  | some (.tokens items) =>
    .ok (if token ∈ items then set else Entries.put "class" (.tokens (items ++ [token])) set)
  | some (.declarations _) | none => .ok (Entries.put "class" (.tokens [token]) set)

def addDeclaration (property value : String) (set : AttributeSet) :
    Except TitleError AttributeSet :=
  match Entries.get? "style" set with
  | some (.text _) => .error .styleIsText
  | some (.declarations entries) =>
    .ok (Entries.put "style" (.declarations (entries.put property value)) set)
  | some (.tokens _) | none => .ok (Entries.put "style" (.declarations [(property, value)]) set)

def add (effect : Effect) (set : AttributeSet) : Except TitleError AttributeSet :=
  match effect.category with
  | .classToken => addClass effect.value set
  | .style => addDeclaration effect.name effect.value set
  | _ => .ok (Entries.put effect.name (.text effect.value) set)

/-- Class tokens gather in a list and declarations under `style`; every other name keeps the last
value given for it. -/
def collect (effects : List Effect) : Except TitleError AttributeSet :=
  effects.foldlM (fun set effect => add effect set) []

end AttributeSet

end MediaMarkup
