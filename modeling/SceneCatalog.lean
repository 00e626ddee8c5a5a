import SceneCatalog.Consensus
import SceneCatalog.Digest.Sha256
import SceneCatalog.Text.Base64Url
import SceneCatalog.Api.Address
import SceneCatalog.Api.Service
import SceneCatalog.Api.Session
import SceneCatalog.Api.WebKey
import SceneCatalog.Config
import SceneCatalog.IdSet
import SceneCatalog.Json.Decode
import SceneCatalog.Json.Numeral
import SceneCatalog.Json.Reader
import SceneCatalog.Record
import SceneCatalog.Text.Hex
import SceneCatalog.Text.Lower
import SceneCatalog.Text.Parts
import SceneCatalog.Timestamp
import SceneCatalog.SceneFingerprints
import SceneCatalog.Filter
import SceneCatalog.Page
import SceneCatalog.Wire.Decode
import SceneCatalog.Wire.Encode
import SceneCatalog.Dialogue
import SceneCatalog.Catalog
import SceneCatalog.Lookup
import SceneCatalog.MemoryStore
import SceneCatalog.Workers
import SceneCatalog.Sql.Script
import SceneCatalog.Sql.Session
import SceneCatalog.Sql.Tables
import SceneCatalog.Sql.Database
import SceneCatalog.Sql.Constraints
import SceneCatalog.Sql.Pattern
import SceneCatalog.Replicas
import SceneCatalog.Proofs.Api.Authorization
import SceneCatalog.Proofs.Api.Credentials
import SceneCatalog.Proofs.Api.Handling
import SceneCatalog.Proofs.Api.Privacy
import SceneCatalog.Proofs.Association
import SceneCatalog.Proofs.Consensus.Alone
import SceneCatalog.Proofs.Consensus.Course
import SceneCatalog.Proofs.Consensus.Failure
import SceneCatalog.Proofs.Consensus.History
import SceneCatalog.Proofs.Consensus.Likeness
import SceneCatalog.Proofs.Consensus.Linearization
import SceneCatalog.Proofs.Consensus.Plan
import SceneCatalog.Proofs.Consensus.Reading
import SceneCatalog.Proofs.Consensus.Representation
import SceneCatalog.Proofs.Consensus.Serial
import SceneCatalog.Proofs.Consensus.Store
import SceneCatalog.Proofs.Consensus.Submitters
import SceneCatalog.Proofs.Consensus.Writes
import SceneCatalog.Proofs.Fingerprints.Alike
import SceneCatalog.Proofs.Fingerprints.Collection
import SceneCatalog.Proofs.Fingerprints.Difference
import SceneCatalog.Proofs.Fingerprints.Merging
import SceneCatalog.Proofs.Fingerprints.Outcome
import SceneCatalog.Proofs.Fingerprints.Reconcile
import SceneCatalog.Proofs.Fingerprints.Sets
import SceneCatalog.Proofs.Fingerprints.Stamps
import SceneCatalog.Proofs.Fingerprints.Timely
import SceneCatalog.Proofs.Locks.Completion
import SceneCatalog.Proofs.Locks.Discipline
import SceneCatalog.Proofs.Locks.Exclusion
import SceneCatalog.Proofs.Locks.Renaming
import SceneCatalog.Proofs.Locks.Table
import SceneCatalog.Proofs.Locks.Transcript
import SceneCatalog.Proofs.Locks.Turn
import SceneCatalog.Proofs.Resemblance
import SceneCatalog.Proofs.Catalog.Lookup
import SceneCatalog.Proofs.Sql.Conditions
import SceneCatalog.Proofs.Sql.Query
import SceneCatalog.Proofs.Catalog.Paging
import SceneCatalog.Proofs.Sql.Rows
import SceneCatalog.Proofs.Sql.Course
import SceneCatalog.Proofs.Sql.Transactions
import SceneCatalog.Proofs.Replicas.Turn
import SceneCatalog.Proofs.Replicas.Serial
import SceneCatalog.Proofs.Replicas.Progress
import SceneCatalog.Proofs.Replicas.Serializability
import SceneCatalog.Proofs.Consensus.Blame
import SceneCatalog.Proofs.Consensus.Errors
import SceneCatalog.Proofs.Sql.Plans
import SceneCatalog.Proofs.Sql.Conversation
import SceneCatalog.Proofs.Sql.Kept
import SceneCatalog.Proofs.Sql.RoundTrip
import SceneCatalog.Proofs.Catalog.Criteria
import SceneCatalog.Proofs.Catalog.Titles
import SceneCatalog.Proofs.Fingerprints.Corroboration
import SceneCatalog.Proofs.Fingerprints.Places
import SceneCatalog.Proofs.Fingerprints.Parsing
import SceneCatalog.Proofs.Sql.Patterns
import SceneCatalog.Proofs.Api.Refusals
import SceneCatalog.Proofs.Sql.Durations
import SceneCatalog.Proofs.Api.Stores
import SceneCatalog.Proofs.Consensus.Accord
import SceneCatalog.Proofs.Api.Discretion
import SceneCatalog.Proofs.Api.Layers
import SceneCatalog.Proofs.Api.Building
import SceneCatalog.Proofs.Api.Sizes
import SceneCatalog.Proofs.Api.RateLimit
import SceneCatalog.Proofs.Api.Rates
