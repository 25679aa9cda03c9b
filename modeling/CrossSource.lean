import CrossSource.Catalog.Document
import CrossSource.CommandLine.Outcome
import CrossSource.Document.Json.Reader
import CrossSource.Document.Json.Writer
import CrossSource.Document.Yaml.Reader
import CrossSource.Main
import CrossSource.Query.Document
import CrossSource.Query.Edit
import CrossSource.Query.File
import CrossSource.Settings.Document
import CrossSource.Text.Suggestion
import CrossSource.Proofs.Connectivity
import CrossSource.Proofs.Validity
import CrossSource.Proofs.Aliases
import CrossSource.Proofs.Sequencing
import CrossSource.Proofs.Counter
import CrossSource.Proofs.References
import CrossSource.Proofs.Operations
import CrossSource.Proofs.OrderedMap
import CrossSource.Proofs.Enforcement
import CrossSource.Proofs.Renaming
import CrossSource.Proofs.Reordering
import CrossSource.Proofs.Defects
import CrossSource.Proofs.Calendar
import CrossSource.Proofs.Instants
import CrossSource.Proofs.Records
import CrossSource.Proofs.QueryDocument
import CrossSource.Proofs.Registration
import CrossSource.Proofs.TableNames
import CrossSource.Proofs.Spellings
import CrossSource.Proofs.CatalogDocument
import CrossSource.Proofs.SafeEdits
import CrossSource.Proofs.Core
import CrossSource.Proofs.Removal
import CrossSource.Proofs.Unreached
import CrossSource.Proofs.EditScripts
import CrossSource.Proofs.Suggestions
import CrossSource.Proofs.BackendCalls
import CrossSource.Proofs.NearNames
import CrossSource.Proofs.DateSeries
import CrossSource.Proofs.TypeNames
import CrossSource.Proofs.Imports
import CrossSource.Proofs.PartitionCalls
import CrossSource.Proofs.Exhaustion
import CrossSource.Proofs.Profiles
