import MediaMarkup.Value
import MediaMarkup.Number.Decimal
import MediaMarkup.Text.Blank
import MediaMarkup.Text.Hex

/-!
Structured data as JSON text in ASCII: characters outside of it and control characters are written
as escapes of one or two UTF-16 units, and a separator is followed by a space.
-/

namespace MediaMarkup.Value

/-! ## Texts -/

/-- One escape of four hexadecimal digits. -/
def escapeUnit (unit : Nat) : List Char :=
  '\\' :: 'u' :: Text.hex 4 unit

/-- A character beyond the first plane takes two units. -/
def escapeUnits (n : Nat) : List Char :=
  if n < 0x10000 then escapeUnit n
  else escapeUnit (0xD800 + (n - 0x10000) / 0x400) ++ escapeUnit (0xDC00 + (n - 0x10000) % 0x400)

def escapeChar (c : Char) : List Char :=
  if c = '"' || c = '\\' then ['\\', c]
  else if c = '\n' then ['\\', 'n']
  else if c = '\r' then ['\\', 'r']
  else if c = '\t' then ['\\', 't']
  else if c = '\x08' then ['\\', 'b']
  else if c = '\x0c' then ['\\', 'f']
  else if 0x20 ≤ c.toNat && c.toNat ≤ 0x7E then [c]
  else escapeUnits c.toNat

def jsonText (cs : List Char) : List Char :=
  '"' :: cs.flatMap escapeChar ++ ['"']

/-! ## Values -/

def integerText (n : Int) : List Char :=
  (if n < 0 then ['-'] else []) ++ Binary64.digitText n.natAbs

mutual

def toJson : Value → List Char
  | .null => "null".toList
  | .boolean b => (if b then "true" else "false").toList
  | .integer n => integerText n
  | .float x => x.text "Infinity".toList
  | .text s => jsonText s.toList
  | .list items => '[' :: Text.join ", ".toList (itemsToJson items) ++ [']']
  | .object members => '\x7b' :: Text.join ", ".toList (membersToJson members) ++ ['\x7d']

def itemsToJson : List Value → List (List Char)
  | [] => []
  | item :: rest => toJson item :: itemsToJson rest

def membersToJson : List (String × Value) → List (List Char)
  | [] => []
  | (name, value) :: rest =>
    (jsonText name.toList ++ ": ".toList ++ toJson value) :: membersToJson rest

end

end MediaMarkup.Value
