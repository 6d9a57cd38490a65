import MediaMarkup.Enrich.Pass
import MediaMarkup.Html.Reader
import MediaMarkup.Html.Writer

/-!
Enriching HTML fragments.
-/

namespace MediaMarkup.Html

inductive Error
  | settings (cause : Settings.Error)
  | enrich (cause : Stop EnrichError)
  deriving DecidableEq, Repr

/-- An enriched fragment with its messages; a blank one is left alone whatever the options are. -/
def enrich (options : Entries Value) (source : String) :
    Except (Error × List Event) (String × List Event) :=
  if Text.isBlankText source.toList then .ok (source, [])
  else
    match Settings.ofOptions options with
    | .error cause => .error (.settings cause, [])
    | .ok settings =>
      let enriched := (readFragment source.toList).enrichAs .markup settings
      match enriched.failure with
      | some cause => .error (.enrich cause, enriched.events)
      | none => .ok (.ofList (writeFragment (numberNamespaces enriched.tree)), enriched.events)

end MediaMarkup.Html
