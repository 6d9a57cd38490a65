import MediaMarkup.Value
import MediaMarkup.Text.Hex

/-!
Reading JSON text. A number with a fraction or an exponent is a floating point number, every other
number an integer of any size; a name given twice in an object keeps its first place and takes its
last value. Each reader answers with what it read and the text that remains.
-/

namespace MediaMarkup.Value.Reader

def skipSpace (cs : List Char) : List Char :=
  cs.dropWhile (fun c => c = ' ' || c = '\n' || c = '\r' || c = '\t')

/-! ## Texts -/

def unit? (a b c d : Char) : Option Nat := do
  let a ← Text.hexValue? a
  let b ← Text.hexValue? b
  let c ← Text.hexValue? c
  let d ← Text.hexValue? d
  some (((a * 16 + b) * 16 + c) * 16 + d)

def isLeading (unit : Nat) : Bool := 0xD800 ≤ unit && unit ≤ 0xDBFF

def isTrailing (unit : Nat) : Bool := 0xDC00 ≤ unit && unit ≤ 0xDFFF

/-- The characters of UTF-16 units; half of a pair on its own has none. -/
def joinUnits : List Nat → List Char
  | [] => []
  | [unit] => if isLeading unit || isTrailing unit then ['\uFFFD'] else [Char.ofNat unit]
  | unit :: next :: rest =>
    if isLeading unit && isTrailing next then
      Char.ofNat (0x10000 + (unit - 0xD800) * 0x400 + (next - 0xDC00)) :: joinUnits rest
    else if isLeading unit || isTrailing unit then '\uFFFD' :: joinUnits (next :: rest)
    else Char.ofNat unit :: joinUnits (next :: rest)

def simpleEscape? : Char → Option Char
  | 'n' => some '\n'
  | 'r' => some '\r'
  | 't' => some '\t'
  | 'b' => some '\x08'
  | 'f' => some '\x0c'
  | '"' => some '"'
  | '\\' => some '\\'
  | '/' => some '/'
  | _ => none

/-- Reads up to the closing quote. Units of escapes are gathered until another character comes, so
that the two halves of a pair meet. -/
def text? (units : List Nat) : List Char → Option (List Char × List Char)
  | [] => none
  | '"' :: rest => some (joinUnits units.reverse, rest)
  | '\\' :: 'u' :: a :: b :: c :: d :: rest => do
    let unit ← unit? a b c d
    text? (unit :: units) rest
  | '\\' :: c :: rest => do
    let plain ← simpleEscape? c
    let (read, remaining) ← text? [] rest
    some (joinUnits units.reverse ++ plain :: read, remaining)
  | c :: rest => do
    let (read, remaining) ← text? [] rest
    some (joinUnits units.reverse ++ c :: read, remaining)

/-! ## Numbers -/

def digitsValue (cs : List Char) : Nat :=
  cs.foldl (fun n c => n * 10 + (c.toNat - 48)) 0

def digits (cs : List Char) : List Char × List Char :=
  (cs.takeWhile Char.isDigit, cs.dropWhile Char.isDigit)

def sign : List Char → Bool × List Char
  | '-' :: rest => (true, rest)
  | '+' :: rest => (false, rest)
  | cs => (false, cs)

def fraction : List Char → Option (List Char) × List Char
  | '.' :: rest => (some (digits rest).1, (digits rest).2)
  | cs => (none, cs)

def exponent : List Char → Option Int × List Char
  | c :: rest =>
    if c = 'e' || c = 'E' then
      let (negative, rest) := sign rest
      let (read, rest) := digits rest
      (some (Binary64.signed negative (digitsValue read)), rest)
    else (none, c :: rest)
  | [] => (none, [])

def number? (cs : List Char) : Option (Value × List Char) :=
  let (negative, cs) := sign cs
  let (whole, cs) := digits cs
  if whole.isEmpty then none
  else
    let (places, cs) := fraction cs
    let (power, cs) := exponent cs
    if places.isNone && power.isNone then
      some (.integer (Binary64.signed negative (digitsValue whole)), cs)
    else
      let places := places.getD []
      let shift : Int := power.getD 0 - places.length
      some (.float (.ofDecimal negative (digitsValue (whole ++ places)) shift), cs)

/-! ## Values -/

def word? (word : String) (value : Value) (cs : List Char) : Option (Value × List Char) :=
  if word.toList.isPrefixOf cs then some (value, cs.drop word.length) else none

mutual

/-- Every level of nesting and every item takes one from the bound. -/
def value? : Nat → List Char → Option (Value × List Char)
  | 0, _ => none
  | bound + 1, cs =>
    match skipSpace cs with
    | '"' :: rest => (text? [] rest).map (fun (read, rest) => (.text (.ofList read), rest))
    | '[' :: rest =>
      match skipSpace rest with
      | ']' :: rest => some (.list [], rest)
      | rest => (items? bound rest).map (fun (items, rest) => (.list items, rest))
    | '\x7b' :: rest =>
      match skipSpace rest with
      | '\x7d' :: rest => some (.object [], rest)
      | rest => (members? bound rest).map fun (members, rest) =>
          (.object (Entries.ofList members), rest)
    | 'n' :: rest => word? "ull" .null rest
    | 't' :: rest => word? "rue" (.boolean true) rest
    | 'f' :: rest => word? "alse" (.boolean false) rest
    | rest => number? rest

def items? : Nat → List Char → Option (List Value × List Char)
  | 0, _ => none
  | bound + 1, cs => do
    let (item, rest) ← value? bound cs
    match skipSpace rest with
    | ']' :: rest => some ([item], rest)
    | ',' :: rest =>
      let (items, rest) ← items? bound rest
      some (item :: items, rest)
    | _ => none

def members? : Nat → List Char → Option (List (String × Value) × List Char)
  | 0, _ => none
  | bound + 1, cs => do
    match skipSpace cs with
    | '"' :: rest =>
      let (name, rest) ← text? [] rest
      match skipSpace rest with
      | ':' :: rest =>
        let (value, rest) ← value? bound rest
        let member := (String.ofList name, value)
        match skipSpace rest with
        | '\x7d' :: rest => some ([member], rest)
        | ',' :: rest =>
          let (members, rest) ← members? bound rest
          some (member :: members, rest)
        | _ => none
      | _ => none
    | _ => none

end

end MediaMarkup.Value.Reader

namespace MediaMarkup.Value

/-- The value that a text spells, with nothing but spaces around it. -/
def ofJson? (cs : List Char) : Option Value := do
  let (value, rest) ← Reader.value? (2 * cs.length + 1) cs
  if (Reader.skipSpace rest).isEmpty then some value else none

end MediaMarkup.Value
