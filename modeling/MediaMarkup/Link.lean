/-!
Sources that ask for a link. A source in brackets or parentheses stands for an image that is linked
to its own source; inside a link only the wrapper is taken off. Serializers may have escaped the
wrapper at either end.
-/

namespace MediaMarkup

inductive Wrapper
  | bracket
  | parenthesis
  deriving DecidableEq, Repr

namespace Wrapper

def name : Wrapper → String
  | .bracket => "bracket"
  | .parenthesis => "parenthesis"

def opening : Wrapper → Char
  | .bracket => '['
  | .parenthesis => '('

def closing : Wrapper → Char
  | .bracket => ']'
  | .parenthesis => ')'

end Wrapper

/-- A source without its wrapper, and where the link that it asks for leads. -/
structure Link where
  source : String
  wrapper : Option Wrapper
  href : Option String
  deriving DecidableEq, Repr

namespace Link

/-! ## Escapes -/

/-- The wrapper character that an escape stands for. -/
def unescape : Char → Char → Char → Option Char
  | '%', '5', 'B' => some '['
  | '%', '5', 'b' => some '['
  | '%', '5', 'D' => some ']'
  | '%', '5', 'd' => some ']'
  | '%', '2', '8' => some '('
  | '%', '2', '9' => some ')'
  | _, _, _ => none

def decodeHead : List Char → List Char
  | a :: b :: c :: rest =>
    match unescape a b c with
    | some plain => plain :: rest
    | none => a :: b :: c :: rest
  | cs => cs

/-- An escape that is the whole source stays. -/
def decodeTail (cs : List Char) : List Char :=
  match cs.reverse with
  | c :: b :: a :: d :: before =>
    match unescape a b c with
    | some plain => (d :: before).reverse ++ [plain]
    | none => cs
  | _ => cs

/-- Escapes are decoded at either end only. -/
def decodeEnds (cs : List Char) : List Char :=
  decodeTail (decodeHead cs)

def decodeWrappers (source : String) : String :=
  .ofList (decodeEnds source.toList)

/-! ## Wrappers -/

/-- The text between a wrapper's characters. -/
def unwrap? (wrapper : Wrapper) : List Char → Option (List Char)
  | first :: c :: rest =>
    if first = wrapper.opening && (c :: rest).getLast? = some wrapper.closing then
      some (c :: rest).dropLast
    else none
  | _ => none

/-- The wrapper around a source, and the source without it. -/
def wrapped? (source : List Char) : Option (Wrapper × List Char) :=
  let decoded := decodeEnds source
  match unwrap? .bracket decoded with
  | some text => some (.bracket, text)
  | none => (unwrap? .parenthesis decoded).map (fun text => (.parenthesis, text))

def ofSource (source : String) (insideLink : Bool) : Link :=
  match wrapped? source.toList with
  | some (wrapper, text) =>
    let text := String.ofList text
    ⟨text, some wrapper, if insideLink then none else some text⟩
  | none => ⟨source, none, none⟩

end Link

end MediaMarkup
