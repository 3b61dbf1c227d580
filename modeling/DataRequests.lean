import DataRequests.Arena.Written
import DataRequests.Build
import DataRequests.Declaration.Reader
import DataRequests.Diagnostic.Rendering
import DataRequests.Json.Writer
import DataRequests.Main
import DataRequests.Proofs.Accounts
import DataRequests.Proofs.ArenaCalls
import DataRequests.Proofs.BindingConflicts
import DataRequests.Proofs.Bindings
import DataRequests.Proofs.Commands
import DataRequests.Proofs.Completeness
import DataRequests.Proofs.Decisions
import DataRequests.Proofs.DeclarationOrder
import DataRequests.Proofs.DelegateFields
import DataRequests.Proofs.LowerCamelCase
import DataRequests.Proofs.MarkerKinds
import DataRequests.Proofs.MarkerOrder
import DataRequests.Proofs.Offsets
import DataRequests.Proofs.Plans
import DataRequests.Proofs.Provenance
import DataRequests.Proofs.ProviderPairing
import DataRequests.Proofs.RepeatedMarkers
import DataRequests.Proofs.RoundTrip
import DataRequests.Proofs.TypeTags
import DataRequests.Proofs.TypeText
import DataRequests.Proofs.UnknownMembers
import DataRequests.Proofs.WellFormed
import DataRequests.Request.Reader
import DataRequests.Resolution.System
import DataRequests.Settings
