import MediaMarkup.Text.Quoted

/-!
What is worth a debug message, in the order in which it happens, and the wording of each message.
-/

namespace MediaMarkup

inductive Event
  | unclosedQuote (token : String)
  | malformedDirective (token : String)
  | styleWithoutValue
  | unknownMedia (source : Option String)
  | attributeSet (name tag : String)
  | converted (source tag : String)
  | linked (href : String)
  | figureAdded (tag : String)
  | figureLinked (href : String)
  | parentFigureLinked (href : String)
  | linkedInside (href : String)
  | disabled
  deriving DecidableEq, Repr

namespace Event

def quotedText (text : String) : String :=
  .ofList (Text.quoted text.toList)

def quotedText? : Option String → String
  | some text => quotedText text
  | none => "None"

def message : Event → String
  | .unclosedQuote token => "Dropping directive with unterminated quote: " ++ quotedText token
  | .malformedDirective token => "Ignoring malformed directive " ++ quotedText token
  | .styleWithoutValue => "Ignoring style directive without a value"
  | .unknownMedia source => "No media type for " ++ quotedText? source ++ ", leaving it an image"
  | .attributeSet name tag => "Set " ++ name ++ " on <" ++ tag ++ ">"
  | .converted source tag => "Converted " ++ source ++ " into <" ++ tag ++ ">"
  | .linked href => "Linked " ++ href ++ " to itself"
  | .figureAdded tag => "Wrapped <" ++ tag ++ "> in a figure"
  | .figureLinked href => "Linked figure to " ++ href
  | .parentFigureLinked href => "Linked existing figure to " ++ href
  | .linkedInside href => "Figure has no parent, linked " ++ href ++ " inside it"
  | .disabled => "imagehack is disabled, tree left untouched"

end Event

end MediaMarkup
