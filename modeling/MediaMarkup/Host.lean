import MediaMarkup.Enrich.Pass
import MediaMarkup.HostOptions

/-!
The enriching pass of a host: the host sets its options and loads the pass, which checks them once
more, and then runs the pass over a document.
-/

namespace MediaMarkup.Host

inductive Error
  /-- An option cannot be set. -/
  | options (cause : HostOptions.Error)
  /-- The options that were set make no settings. -/
  | settings (cause : Settings.Error)
  | enrich (cause : Stop EnrichError)
  deriving DecidableEq, Repr

/-- The options after the given ones were set, with the settings that they make. -/
def load (given : List (String × Value)) : Except Error (Entries Value × Settings) :=
  match HostOptions.setAll given with
  | .error cause => .error (.options cause)
  | .ok options =>
    match Settings.ofOptions options with
    | .error cause => .error (.settings cause)
    | .ok settings => .ok (options, settings)

/-- What a host has of a document after its pass. -/
structure Processed where
  tree : Node
  events : List Event
  failure : Option Error

namespace Processed

/-- A document that no pass ran over. -/
def untouched (cause : Error) (tree : Node) : Processed :=
  ⟨tree, [], some cause⟩

def ofEnriched (enriched : Enriched) : Processed :=
  ⟨enriched.tree, enriched.events, enriched.failure.map .enrich⟩

end Processed

/-- Loads the pass with the given options and runs it over a document. -/
def run (given : List (String × Value)) (tree : Node) : Processed :=
  match load given with
  | .error cause => .untouched cause tree
  | .ok (_, settings) => .ofEnriched (tree.enrich settings)

end MediaMarkup.Host
