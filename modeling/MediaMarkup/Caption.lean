/-!
Caption markers at the start of an alt text. `^` and `caption:` ask for a figure with a caption, `*`
and `+` for a figure alone. The first marker decides, and those stacked behind it are dropped.
-/

namespace MediaMarkup

/-- What a marker asks for. -/
inductive CaptionMode
  | figure
  | figcaption
  deriving DecidableEq, Repr

namespace CaptionMode

def name : CaptionMode → String
  | .figure => "figure"
  | .figcaption => "figcaption"

end CaptionMode

/-- What an alt text says. -/
inductive Caption
  | plain (alt : Option String)
  | marked (mode : CaptionMode) (text : String)
  deriving DecidableEq, Repr

namespace Caption

/-- The mode of the first marker, and the text behind all markers. -/
def unmark : List Char → Option CaptionMode × List Char
  | '^' :: rest => (some .figcaption, (unmark rest).2)
  | '*' :: rest => (some .figure, (unmark rest).2)
  | '+' :: rest => (some .figure, (unmark rest).2)
  | 'c' :: 'a' :: 'p' :: 't' :: 'i' :: 'o' :: 'n' :: ':' :: rest =>
    (some .figcaption, (unmark rest).2)
  | cs => (none, cs)

def ofAlt (alt : String) : Caption :=
  match unmark alt.toList with
  | (some mode, text) => .marked mode (.ofList text)
  | (none, _) => .plain (some alt)

def ofAlt? : Option String → Caption
  | some alt => ofAlt alt
  | none => .plain none

def isMarked : Caption → Bool
  | .plain _ => false
  | .marked _ _ => true

/-- The text of the caption that is asked for, unless it is empty. -/
def captionText? : Caption → Option String
  | .marked .figcaption text => if text.isEmpty then none else some text
  | _ => none

end Caption

end MediaMarkup
