import MediaMarkup.Settings
import MediaMarkup.Value.Literal

/-!
The options as a host sets them, one by one and loosely typed: words and other data are turned into
truth values for the options that are on or off, the caption position is taken as it is.
-/

namespace MediaMarkup.HostOptions

inductive Error
  /-- An option has the settings' own name. -/
  | ownName
  | unknown (name : String)
  | notBoolean (word : String)
  deriving DecidableEq, Repr

def Error.message : Error → String
  | .ownName => "ImageHackExtension.__init__() got multiple values for argument '" ++
      Settings.ownName ++ "'"
  | .unknown name => .ofList (Value.quotedName name)
  | .notBoolean word => "Cannot parse bool value: " ++ .ofList (Value.quotedName word)

/-- The place of this pass among a host's passes over a document. -/
def priority : Nat := 15

def trueWords : List String := ["true", "yes", "y", "on", "1"]

def falseWords : List String := ["false", "no", "n", "off", "0", "none"]

/-- Every option with its default. -/
def defaults : Entries Value := Settings.default.toEntries

/-- Every option with what it is for. -/
def descriptions : Entries String := [
  (Settings.Flag.enable.name, "Set to False to leave images untouched"),
  (Settings.positionName, "Put the figcaption 'above' or 'below' the media"),
  (Settings.Flag.videoControls.name, "Add controls to images converted into videos"),
  (Settings.Flag.audioControls.name, "Add controls to images converted into audio"),
  (Settings.Flag.unravelParagraphs.name, "Lift figures, videos and audio out of paragraphs")]

/-- Data counts as true unless it is empty or zero. -/
def isTrue : Value → Bool
  | .null => false
  | .boolean b => b
  | .integer n => n ≠ 0
  | .float x => !x.isZero
  | .text s => !s.isEmpty
  | .list items => !items.isEmpty
  | .object members => !members.isEmpty

def readWord (word : String) : Except Error Bool :=
  let small := String.ofList (word.toList.map Char.toLower)
  if small ∈ trueWords then .ok true
  else if small ∈ falseWords then .ok false
  else .error (.notBoolean word)

/-- A word has to name a truth value; other data is taken for what it counts as. -/
def readBoolean : Value → Except Error Bool
  | .text word => readWord word
  | value => .ok (isTrue value)

/-- Sets one option that is listed. -/
def set (options : Entries Value) (name : String) (value : Value) :
    Except Error (Entries Value) :=
  match options.get? name with
  | none => .error (.unknown name)
  | some (.boolean _) => (readBoolean value).map (fun b => options.put name (.boolean b))
  | some _ => .ok (options.put name value)

/-- All options after those given were set in order. -/
def setAll (given : List (String × Value)) : Except Error (Entries Value) :=
  if (Entries.get? Settings.ownName given).isSome then .error .ownName
  else given.foldlM (fun options entry => set options entry.1 entry.2) defaults

end MediaMarkup.HostOptions
