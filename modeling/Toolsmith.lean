import Toolsmith.Command
import Toolsmith.Main
import Toolsmith.Proofs.Action
import Toolsmith.Proofs.Files.Tree
import Toolsmith.Proofs.Json.Characters
import Toolsmith.Proofs.Json.Numbers
import Toolsmith.Proofs.Json.Parts
import Toolsmith.Proofs.Json.Reading
import Toolsmith.Proofs.Json.RoundTrip
import Toolsmith.Proofs.Json.Strings
import Toolsmith.Proofs.Naming.Distinct
import Toolsmith.Proofs.Publish.Fidelity
import Toolsmith.Proofs.Text.Encoding
import Toolsmith.Proofs.Text.Numeral
import Toolsmith.Proofs.Tool
import Toolsmith.Proofs.Unit.Bindings
import Toolsmith.Proofs.Unit.LineCount
import Toolsmith.Proofs.Unit.Literal
import Toolsmith.Proofs.Unit.Opening
import Toolsmith.Proofs.Unit.Reading
import Toolsmith.Proofs.Unit.Safety
import Toolsmith.Proofs.Document.Parameters
import Toolsmith.Proofs.Naming.Segments
import Toolsmith.Proofs.Naming.ToolName
import Toolsmith.Proofs.Publish.Account
import Toolsmith.Proofs.Publish.Checkpoint
import Toolsmith.Proofs.Publish.Synced
import Toolsmith.Proofs.Publish.Synchrony
import Toolsmith.Proofs.Catalog.Addresses
import Toolsmith.Proofs.Catalog.Building
import Toolsmith.Proofs.Catalog.Completion
import Toolsmith.Proofs.Catalog.Persistence
import Toolsmith.Proofs.Catalog.Reuse
import Toolsmith.Proofs.Catalog.Survival
import Toolsmith.Proofs.Document.Listing
import Toolsmith.Proofs.Json.Reopening
import Toolsmith.Proofs.Publish.Idempotence
import Toolsmith.Proofs.Generate.Independence
import Toolsmith.Proofs.Generate.Locality
import Toolsmith.Proofs.Generate.Passing
import Toolsmith.Proofs.Generate.Repetition
import Toolsmith.Proofs.Generate.Replacement
import Toolsmith.Proofs.Generate.Survival
import Toolsmith.Proofs.Publish.History
import Toolsmith.Proofs.Publish.Separation
import Toolsmith.Proofs.Unit.Encoding
import Toolsmith.Proofs.Document.BasePath
import Toolsmith.Proofs.Unit.Addressing
import Toolsmith.Proofs.Unit.PathExpression
import Toolsmith.Proofs.Unit.Scoping
import Toolsmith.Proofs.Document.NormalForm
import Toolsmith.Proofs.Document.Pointer
import Toolsmith.Proofs.Publish.Stale
import Toolsmith.Proofs.Document.References
import Toolsmith.Proofs.Unit.Query
import Toolsmith.Proofs.Unit.Names
