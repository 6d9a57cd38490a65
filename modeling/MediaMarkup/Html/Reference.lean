import MediaMarkup.Html.NamedCharacter
import MediaMarkup.Text.Hex

/-!
Character references: an ampersand with the name or the number of a character behind it. What does
not name a character is plain text.
-/

namespace MediaMarkup.Html

/-! ## Numbers -/

/-- The characters meant by the numbers from 0x80 on, which are no characters of their own. -/
def oldNumbers : List Nat := [
  0x20AC, 0x81, 0x201A, 0x192, 0x201E, 0x2026, 0x2020, 0x2021, 0x2C6, 0x2030, 0x160, 0x2039, 0x152,
  0x8D, 0x17D, 0x8F, 0x90, 0x2018, 0x2019, 0x201C, 0x201D, 0x2022, 0x2013, 0x2014, 0x2DC, 0x2122,
  0x161, 0x203A, 0x153, 0x9D, 0x17E, 0x178]

/-- The character with a number; one that there is not is shown as a replacement. -/
def numberedChar (n : Nat) : Char :=
  let n := if 0x80 ≤ n && n < 0xA0 then oldNumbers.getD (n - 0x80) n else n
  if n ≠ 0 && n.isValidChar then Char.ofNat n else '\ufffd'

/-- The value of digits in a base. -/
def digitsValue (base : Nat) (digits : List Char) : Nat :=
  digits.foldl (fun n c => n * base + (Text.hexValue? c).getD 0) 0

/-- A number at the start of a text: the character and the length of what stands for it. -/
def readNumber (base : Nat) (isDigit : Char → Bool) (cs : List Char) : Option (List Char × Nat) :=
  let digits := cs.takeWhile isDigit
  if digits.isEmpty then none
  else
    let closed := (cs.drop digits.length).head? = some ';'
    some ([numberedChar (digitsValue base digits)], digits.length + if closed then 1 else 0)

def readHexadecimal (cs : List Char) : Option (List Char × Nat) :=
  (readNumber 16 (fun c => (Text.hexValue? c).isSome) cs).map fun (cs, length) => (cs, length + 1)

/-! ## Names -/

/-- The characters with a name and the length of the name, if the text starts with it. -/
def readClosed (cs : List Char) : Option (List Char × Nat) :=
  let name := cs.takeWhile Char.isAlphanum
  if (cs.drop name.length).head? = some ';' then
    (NamedCharacter.all.find? (·.1.toList = name)).map fun entry =>
      (entry.2.toList, name.length + 1)
  else none

/-- The longest name without a semicolon that a text starts with. -/
def bareName? (cs : List Char) : Option String :=
  (NamedCharacter.bareNames.filter (·.toList.isPrefixOf cs)).foldl (fun longest name =>
    match longest with
    | some other => if other.length < name.length then some name else longest
    | none => some name) none

/-- In a value, a name without a semicolon is plain text if a word or an equals sign goes on. -/
def readBare (inValue : Bool) (cs : List Char) : Option (List Char × Nat) :=
  match bareName? cs with
  | none => none
  | some name =>
    let goesOn := (cs.drop name.length).head?.any (fun c => c.isAlphanum || c = '=')
    if inValue && goesOn then none
    else
      (NamedCharacter.all.find? (·.1 = name)).map fun entry => (entry.2.toList, name.length)

/-! ## References -/

/-- What stands behind an ampersand: the characters meant and the length of what stands for them. -/
def readReference (inValue : Bool) : List Char → Option (List Char × Nat)
  | '#' :: 'x' :: rest | '#' :: 'X' :: rest =>
    (readHexadecimal rest).map fun (cs, length) => (cs, length + 1)
  | '#' :: rest => (readNumber 10 Char.isDigit rest).map fun (cs, length) => (cs, length + 1)
  | cs =>
    match readClosed cs with
    | some reference => some reference
    | none => readBare inValue cs

/-- Puts characters for references, once the first characters are skipped. -/
def decodeFrom (inValue : Bool) : Nat → List Char → List Char
  | _, [] => []
  | skip + 1, _ :: rest => decodeFrom inValue skip rest
  | 0, c :: rest =>
    if c = '&' then
      match readReference inValue rest with
      | some (cs, length) => cs ++ decodeFrom inValue length rest
      | none => c :: decodeFrom inValue 0 rest
    else c :: decodeFrom inValue 0 rest

def decode (inValue : Bool) (cs : List Char) : List Char :=
  decodeFrom inValue 0 cs

end MediaMarkup.Html
