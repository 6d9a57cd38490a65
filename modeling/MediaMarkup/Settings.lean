import MediaMarkup.Value

/-!
The options of an enriching pass, and reading them from named values of any type. A name that no
option can have is reported first, then names that are no option, then values that do not fit.
-/

namespace MediaMarkup

inductive CaptionPosition
  | above
  | below
  deriving DecidableEq, Repr

namespace CaptionPosition

def name : CaptionPosition → String
  | .above => "above"
  | .below => "below"

def ofValue? : Value → Option CaptionPosition
  | .text name => [above, below].find? (·.name = name)
  | _ => none

end CaptionPosition

structure Settings where
  enable : Bool
  captionPosition : CaptionPosition
  videoControls : Bool
  audioControls : Bool
  unravelParagraphs : Bool
  deriving DecidableEq, Repr

namespace Settings

def default : Settings := ⟨true, .below, false, false, true⟩

def captionsAbove (settings : Settings) : Bool :=
  settings.captionPosition = .above

/-- Whether elements of a kind get controls when an image is converted into them. -/
def addsControls (settings : Settings) (kind : String) : Bool :=
  match kind with
  | "video" => settings.videoControls
  | "audio" => settings.audioControls
  | _ => false

/-! ## Options -/

/-- The options that are on or off, in the order in which they are checked. -/
inductive Flag
  | enable
  | videoControls
  | audioControls
  | unravelParagraphs
  deriving DecidableEq, Repr

namespace Flag

def all : List Flag := [enable, videoControls, audioControls, unravelParagraphs]

def name : Flag → String
  | .enable => "enable"
  | .videoControls => "always_add_controls_for_videos"
  | .audioControls => "always_add_controls_for_audio"
  | .unravelParagraphs => "unravel_paragraphs"

def get (settings : Settings) : Flag → Bool
  | .enable => settings.enable
  | .videoControls => settings.videoControls
  | .audioControls => settings.audioControls
  | .unravelParagraphs => settings.unravelParagraphs

end Flag

def positionName : String := "figure_caption_position"

/-- All option names in the order in which options are listed. -/
def optionNames : List String := [
  Flag.enable.name, positionName, Flag.videoControls.name, Flag.audioControls.name,
  Flag.unravelParagraphs.name]

/-- The options with their values, as they are listed. -/
def toEntries (settings : Settings) : Entries Value :=
  let flag (f : Flag) : String × Value := (f.name, .boolean (f.get settings))
  [flag .enable, (positionName, .text settings.captionPosition.name), flag .videoControls,
    flag .audioControls, flag .unravelParagraphs]

/-- The name by which settings go themselves, so that no option can have it. -/
def ownName : String := "self"

inductive Error
  /-- An option has the settings' own name. -/
  | ownName
  /-- Names that are no options, in code point order: `first` and the others. -/
  | unknownOptions (first : String) (others : List String)
  | notBoolean (flag : Flag)
  | badPosition
  deriving DecidableEq, Repr

namespace Error

/-- The option that is to blame. -/
def option? : Error → Option String
  | .ownName => none
  | .unknownOptions first _ => some first
  | .notBoolean flag => some flag.name
  | .badPosition => some positionName

def message : Error → String
  | .ownName => "ImageHackSettings.__init__() got multiple values for argument '" ++
      Settings.ownName ++ "'"
  | .unknownOptions first others => "Unknown option : " ++ ", ".intercalate (first :: others)
  | .notBoolean flag => "Option must be true or false : " ++ flag.name
  | .badPosition => positionName ++ " must be one of " ++
      ", ".intercalate [CaptionPosition.above.name, CaptionPosition.below.name]

end Error

/-- The given names that are no options, in code point order. -/
def unknownNames (options : Entries Value) : List String :=
  (options.names.filter (fun name => !optionNames.contains name)).mergeSort (· ≤ ·)

def readFlag (options : Entries Value) (flag : Flag) : Except Error Bool :=
  match options.get? flag.name with
  | none => .ok (flag.get default)
  | some (.boolean value) => .ok value
  | some _ => .error (.notBoolean flag)

def readPosition (options : Entries Value) : Except Error CaptionPosition :=
  match options.get? positionName with
  | none => .ok default.captionPosition
  | some value =>
    match CaptionPosition.ofValue? value with
    | some position => .ok position
    | none => .error .badPosition

def ofOptions (options : Entries Value) : Except Error Settings :=
  if (options.get? ownName).isSome then .error .ownName
  else
    match unknownNames options with
    | first :: others => .error (.unknownOptions first others)
    | [] => do
      let enable ← readFlag options .enable
      let videoControls ← readFlag options .videoControls
      let audioControls ← readFlag options .audioControls
      let unravelParagraphs ← readFlag options .unravelParagraphs
      let captionPosition ← readPosition options
      return { enable, captionPosition, videoControls, audioControls, unravelParagraphs }

end Settings

end MediaMarkup
