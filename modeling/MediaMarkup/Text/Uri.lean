import MediaMarkup.Text.Hex

/-!
Addresses of resources: percent escapes for characters that an address cannot hold, and the texts
that are one.
-/

namespace MediaMarkup.Text

/-! ## Percent escapes -/

def percentByte (byte : UInt8) : List Char :=
  '%' :: (hex 2 byte.toNat).map Char.toUpper

/-- Every byte of the characters that are not kept becomes a percent escape. -/
def percentEscape (keep : Char → Bool) (cs : List Char) : List Char :=
  cs.flatMap fun c => if keep c then [c] else (String.utf8EncodeChar c).flatMap percentByte

/-! ## References -/

def isSchemeChar (c : Char) : Bool :=
  c.isAlphanum || "+-.".toList.contains c

/-- The characters of a path that stand for themselves. -/
def isPathChar (c : Char) : Bool :=
  c.isAlphanum || "-._~!$&'()*+,;=:@/".toList.contains c

/-- What follows the longest part of the given characters and of percent escapes. -/
def skipUri (allowed : Char → Bool) : List Char → List Char
  | '%' :: high :: low :: rest =>
    if (hexValue? high).isSome && (hexValue? low).isSome then skipUri allowed rest
    else '%' :: high :: low :: rest
  | c :: rest => if allowed c then skipUri allowed rest else c :: rest
  | [] => []

/-- Nothing, or a fragment up to the end. -/
def isFragment : List Char → Bool
  | [] => true
  | '#' :: rest => (skipUri (fun c => isPathChar c || "?[]".toList.contains c) rest).isEmpty
  | _ => false

/-- What may follow a path: a query, a fragment, both or none. -/
def isPathEnd : List Char → Bool
  | '?' :: rest => isFragment (skipUri (fun c => isPathChar c || c = '?') rest)
  | rest => isFragment rest

/-- A reference with a scheme. -/
def isAbsolute (cs : List Char) : Bool :=
  match cs, cs.dropWhile isSchemeChar with
  | first :: _, ':' :: rest => first.isAlpha && isPathEnd (skipUri isPathChar rest)
  | _, _ => false

/-- A reference without a scheme: there is no colon before the first slash. -/
def isRelative (cs : List Char) : Bool :=
  match skipUri (fun c => isPathChar c && c ≠ ':' && c ≠ '/') cs with
  | '/' :: rest => isPathEnd (skipUri isPathChar rest)
  | rest => isPathEnd rest

/-- A reference to a resource by its path; the authorities that paths may start with are not looked
at. -/
def isUriReference (cs : List Char) : Bool :=
  isAbsolute cs || isRelative cs

end MediaMarkup.Text
