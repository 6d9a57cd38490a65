import MediaMarkup.Event

/-!
The kind of media that a source names by its extension. A query or a fragment may follow the
extension; whatever is not known as video or audio is an image.
-/

namespace MediaMarkup

inductive Kind
  | image
  | video
  | audio
  deriving DecidableEq, Repr

namespace Kind

/-- The element that shows media of a kind. -/
def tag : Kind → String
  | .image => "img"
  | .video => "video"
  | .audio => "audio"

end Kind

structure Media where
  kind : Kind
  mime : Option String
  deriving DecidableEq, Repr

namespace Media

def tags : List String := [Kind.image.tag, Kind.video.tag, Kind.audio.tag]

/-! ## Tables -/

def videoTypes : List (String × String) := [
  ("mp4", "video/mp4"), ("mov", "video/quicktime"), ("webm", "video/webm"), ("ogv", "video/ogg"),
  ("mkv", "video/x-matroska"), ("avi", "video/x-msvideo")]

def audioTypes : List (String × String) := [
  ("mp3", "audio/mpeg"), ("wav", "audio/wav"), ("ogg", "audio/ogg"), ("aac", "audio/aac"),
  ("flac", "audio/flac"), ("m4a", "audio/mp4")]

def imageExtensions : List String := [
  "png", "jpg", "jpeg", "gif", "webp", "svg", "avif", "bmp", "ico", "tif", "tiff"]

/-! ## Extensions -/

/-- Where an extension may end: at a query, a fragment or the end of the source, which one final
line break does not move. -/
def endsExtension : List Char → Bool
  | [] => true
  | ['\n'] => true
  | c :: _ => c = '?' || c = '#'

/-- The first run of ASCII letters and digits that stands between a dot and such an end. -/
def findExtension : List Char → Option (List Char)
  | [] => none
  | c :: cs =>
    let run := cs.takeWhile Char.isAlphanum
    if c = '.' && !run.isEmpty && endsExtension (cs.dropWhile Char.isAlphanum) then some run
    else findExtension cs

/-- The extension in small letters. -/
def extension? (source : String) : Option String :=
  (findExtension source.toList).map fun run => .ofList (run.map Char.toLower)

def ofExtension (extension : Option String) : Media :=
  match extension.bind (List.lookup · videoTypes), extension.bind (List.lookup · audioTypes) with
  | some mime, _ => ⟨.video, some mime⟩
  | none, some mime => ⟨.audio, some mime⟩
  | none, none => ⟨.image, none⟩

def isKnown (extension : Option String) : Bool :=
  match extension with
  | some extension => (videoTypes.lookup extension).isSome ||
      (audioTypes.lookup extension).isSome || imageExtensions.contains extension
  | none => false

def ofSource? (source : Option String) : Media :=
  ofExtension (source.bind extension?)

def ofSource (source : String) : Media :=
  ofExtension (extension? source)

/-- A source that is not known to be media of any kind is reported. -/
def events (source : Option String) : List Event :=
  if isKnown (source.bind extension?) then [] else [.unknownMedia source]

end Media

end MediaMarkup
