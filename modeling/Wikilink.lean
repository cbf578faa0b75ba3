import Wikilink.CustomLink
import Wikilink.Disk.Files
import Wikilink.LinkField
import Wikilink.Main
import Wikilink.Proofs.LinkTemplate
import Wikilink.Proofs.Mention.Closing
import Wikilink.Proofs.Rendering
import Wikilink.Proofs.Maintenance.Delivery
import Wikilink.Toml.Printer
import Wikilink.Proofs.Index.Operations
import Wikilink.Proofs.Index.Report
import Wikilink.Proofs.Maintenance.Tally
import Wikilink.Proofs.Attempt
import Wikilink.Proofs.Command.Reset
import Wikilink.Proofs.Content.Alike
import Wikilink.Proofs.Embedding
import Wikilink.Proofs.Index.Lookup
import Wikilink.Proofs.Resolution.Untyped
import Wikilink.Proofs.Resolution.Growth
import Wikilink.Proofs.Mention.Coverage
import Wikilink.Proofs.Mention.LinkReading
import Wikilink.Proofs.Mention.Printing
import Wikilink.Proofs.LinkField.Input
import Wikilink.Proofs.Rendering.Failing
import Wikilink.Proofs.Maintenance.OneEvent
import Wikilink.Proofs.Index.Atomicity
import Wikilink.Proofs.Resolution.Stale
import Wikilink.Proofs.Mention.Substitution
import Wikilink.Proofs.CustomLink
import Wikilink.Proofs.Template.Escaping
import Wikilink.Proofs.Template.Parts
import Wikilink.Proofs.LinkField.Extent
import Wikilink.Proofs.Index.Commuting
import Wikilink.Proofs.LinkField.Bare
import Wikilink.Proofs.SearchKey.Projection
import Wikilink.Proofs.Command.Opening
import Wikilink.Proofs.Records.Id
import Wikilink.Proofs.SearchKey.Appending
import Wikilink.Proofs.Template.Paths
