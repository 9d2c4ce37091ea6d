import SharedTables.Cache.Basic
import SharedTables.Cache.Filling
import SharedTables.Cache.Lookup
import SharedTables.Cache.Store
import SharedTables.Credential
import SharedTables.Data.OrderedMap
import SharedTables.Digest.Sha256
import SharedTables.ErrorFamily
import SharedTables.File.Action
import SharedTables.File.Path
import SharedTables.File.Reference
import SharedTables.Json.Basic
import SharedTables.Json.Display
import SharedTables.Json.Printer
import SharedTables.Json.Reader
import SharedTables.Json.Token
import SharedTables.Number.Binary64
import SharedTables.Number.Binary64Text
import SharedTables.Number.Decimal
import SharedTables.Number.Digits
import SharedTables.Number.Shortest
import SharedTables.Predicate.Basic
import SharedTables.Predicate.Canonical
import SharedTables.Predicate.Literal
import SharedTables.Predicate.Pruning
import SharedTables.Predicate.WireForm
import SharedTables.Predicate.WireTag
import SharedTables.Profile.Basic
import SharedTables.Profile.Expiration
import SharedTables.Profile.Reader
import SharedTables.Resolver.Basic
import SharedTables.Resolver.Listing
import SharedTables.Resolver.Reading
import SharedTables.Resolver.Scanning
import SharedTables.Scan.ChangeKind
import SharedTables.Scan.Fingerprint
import SharedTables.Scan.Parameters
import SharedTables.Scan.Resolved
import SharedTables.Scan.Version
import SharedTables.Schema.Basic
import SharedTables.Schema.Compatibility
import SharedTables.Schema.Reader
import SharedTables.Settings
import SharedTables.Table.Reference
import SharedTables.Text.Blank
import SharedTables.Text.Case
import SharedTables.Text.CaseTable
import SharedTables.Text.Digit
import SharedTables.Text.Encoding
import SharedTables.Text.Half
import SharedTables.Text.Hex
import SharedTables.Text.Percent
import SharedTables.Text.Printable
import SharedTables.Text.Quoted
import SharedTables.Text.Ranges
import SharedTables.Text.Sorted
import SharedTables.Text.Split
import SharedTables.Text.Utf8
import SharedTables.Time.Calendar
import SharedTables.Time.DateTime
import SharedTables.Time.Reader
import SharedTables.Time.Seconds
import SharedTables.Proofs.Predicate.Trees
import SharedTables.Proofs.Predicate.Truth
import SharedTables.Proofs.Predicate.HintSoundness
import SharedTables.Proofs.Text.Codes
import SharedTables.Proofs.Predicate.CanonicalForm
import SharedTables.Proofs.Predicate.CanonicalMeaning
import SharedTables.Proofs.Cache.Batches
import SharedTables.Proofs.Scan.Fingerprint
import SharedTables.Proofs.Text.Sorted
import SharedTables.Proofs.Cache.Traffic
import SharedTables.Proofs.Cache.Ledger
import SharedTables.Proofs.Cache.Leases
import SharedTables.Proofs.Cache.Singleflight
import SharedTables.Proofs.Cache.Entries
import SharedTables.Proofs.Cache.Leftovers
import SharedTables.Proofs.Predicate.Rearrangement
import SharedTables.Proofs.Json.Strings
import SharedTables.Proofs.Predicate.WireText
import SharedTables.Proofs.Predicate.HintedForms
import SharedTables.Proofs.Resolver.SharedHints
import SharedTables.Proofs.Text.Utf8
import SharedTables.Proofs.Text.Percent
import SharedTables.Proofs.Number.Digits
import SharedTables.Proofs.File.Path
import SharedTables.Proofs.Cache.Holders
import SharedTables.Proofs.Cache.Reads
import SharedTables.Proofs.Resolver.Session
import SharedTables.Proofs.Resolver.Stretches
import SharedTables.Proofs.Resolver.Accounts
import SharedTables.Proofs.Resolver.OpenScans
import SharedTables.Proofs.Data.OrderedMap
import SharedTables.Proofs.Json.Reading
import SharedTables.Proofs.Predicate.WireReading
import SharedTables.Proofs.Predicate.OrdinaryHints
import SharedTables.Proofs.Cache.Contents
import SharedTables.Proofs.Cache.Eviction
import SharedTables.Proofs.Cache.Recency
import SharedTables.Proofs.Cache.Capacity
import SharedTables.Proofs.Cache.Orphans
import SharedTables.Proofs.Cache.Takeover
import SharedTables.Proofs.Scan.Directories
import SharedTables.Proofs.Scan.Listed
import SharedTables.Proofs.Cache.Filling
import SharedTables.Proofs.Resolver.Registering
import SharedTables.Proofs.Resolver.Planning
import SharedTables.Proofs.Resolver.Scans
import SharedTables.Proofs.Resolver.Listings
import SharedTables.Proofs.Resolver.FailedScans
import SharedTables.Proofs.Resolver.Calls
import SharedTables.Proofs.Cache.Admission
import SharedTables.Proofs.Resolver.Provenance
import SharedTables.Proofs.Resolver.Ownership
import SharedTables.Proofs.Cache.Turnover
import SharedTables.Proofs.Cache.Statistics
import SharedTables.Proofs.Resolver.PathReads
import SharedTables.Proofs.Resolver.Bypass
import SharedTables.Proofs.Resolver.UncachedReads
import SharedTables.Proofs.Resolver.Plans
import SharedTables.Proofs.Resolver.PlanGuard
import SharedTables.Proofs.Cache.RequestedFile
import SharedTables.Proofs.Profile.Refusals
import SharedTables.Proofs.Cache.EagerFilling
import SharedTables.Proofs.Cache.FailedRefresh
import SharedTables.Proofs.Cache.Sweeping
import SharedTables.Proofs.Cache.Strays
import SharedTables.Proofs.Cache.Interference
import SharedTables.Proofs.Resolver.UnsentConditions
import SharedTables.Proofs.Predicate.WireGrammar
import SharedTables.Proofs.Text.Quoted
import SharedTables.Proofs.Text.Blank
import SharedTables.Proofs.Predicate.TypeNames
import SharedTables.Proofs.Predicate.Chains
import SharedTables.Proofs.Predicate.Separation
import SharedTables.Proofs.Schema.Matching
import SharedTables.Proofs.Schema.Names
import SharedTables.Proofs.Schema.Descriptions
import SharedTables.Proofs.Json.Members
import SharedTables.Proofs.Json.Lexemes
import SharedTables.Proofs.Json.Spacing
import SharedTables.Proofs.Schema.ExactMatch
import SharedTables.Proofs.Table.Paths
import SharedTables.Proofs.Profile.ExpiryChecks
import SharedTables.Proofs.Profile.Secrets
import SharedTables.Proofs.Profile.SixDigits
import SharedTables.Proofs.Time.Calendar
import SharedTables.Proofs.Profile.ExpirationTimes
