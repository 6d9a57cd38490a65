import MediaMarkup.Document.Action
import MediaMarkup.Enrich.AtPath
import MediaMarkup.Host
import MediaMarkup.Html
import MediaMarkup.Proofs.CaptionPosition
import MediaMarkup.Proofs.Essence
import MediaMarkup.Proofs.Host
import MediaMarkup.Proofs.Siblings
import MediaMarkup.Proofs.Links
import MediaMarkup.Proofs.Substance
import MediaMarkup.Proofs.Sources
import MediaMarkup.Proofs.Stopping
import MediaMarkup.Proofs.TitleTokens
import MediaMarkup.Proofs.MergePolicy
import MediaMarkup.Proofs.StyleForms
import MediaMarkup.Proofs.TidiedStyle
import MediaMarkup.Proofs.ObjectLiteral
import MediaMarkup.Proofs.StableNames
import MediaMarkup.Proofs.Placement
import MediaMarkup.Proofs.AttributeOutcome
import MediaMarkup.Proofs.SlotEdits
import MediaMarkup.Proofs.SourceQuery
import MediaMarkup.Proofs.WrittenNodes
import MediaMarkup.Proofs.CaptionMarkers
import MediaMarkup.Proofs.Pieces
import MediaMarkup.Proofs.Options
import MediaMarkup.Session
import MediaMarkup.Value.Reader
