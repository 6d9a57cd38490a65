import MediaMarkup.Html.Reader
import MediaMarkup.Html.Writer

/-!
Texts and values between writing and reading. What is escaped is read as the text that it stands
for (`decode_escapeText`, `readValue_quote`), and what follows it is left to be read.
-/

namespace MediaMarkup.Html

/-! ## Line breaks -/

/-- Whether a text is free of the characters that reading replaces first. -/
def isNormal (cs : List Char) : Bool :=
  cs.all fun c => c ≠ '\r' && c ≠ '\x00'

end MediaMarkup.Html
