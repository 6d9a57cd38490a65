import MediaMarkup.Text.Hex
import MediaMarkup.Text.Printable

/-!
A text between quotes, for messages: characters without a shape of their own, backslashes and the
quote in use are written as escapes.
-/

namespace MediaMarkup.Text

/-- Single quotes, unless they would have to be escaped and double quotes would not. -/
def quoteFor (cs : List Char) : Char :=
  if cs.contains '\'' && !cs.contains '"' then '"' else '\''

/-- The code point of a character in as few of two, four or eight places as will do. -/
def escapeCode (n : Nat) : List Char :=
  if n < 0x100 then '\\' :: 'x' :: hex 2 n
  else if n < 0x10000 then '\\' :: 'u' :: hex 4 n
  else '\\' :: 'U' :: hex 8 n

def escapeQuoted (quote c : Char) : List Char :=
  if c = quote || c = '\\' then ['\\', c]
  else if c = '\n' then ['\\', 'n']
  else if c = '\r' then ['\\', 'r']
  else if c = '\t' then ['\\', 't']
  else if isPrintable c then [c]
  else escapeCode c.toNat

def quoted (cs : List Char) : List Char :=
  let quote := quoteFor cs
  quote :: cs.flatMap (escapeQuoted quote) ++ [quote]

end MediaMarkup.Text
