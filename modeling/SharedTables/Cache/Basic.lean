import SharedTables.Credential
import SharedTables.Text.Sorted

/-! The cache of signed links. Links are kept under a table key and a file id and are grouped in
batches, one for each table key; a batch is refreshed as a whole. -/
namespace SharedTables

/-- Where a link is kept: a key of `PresignedUrlCache._entries`. -/
structure EntryKey where
  tableKey : String
  fileId : String
  deriving DecidableEq, Repr

/-- The right to refresh a batch, until it expires. -/
structure Lease where
  token : Nat
  expires : Seconds
  deriving DecidableEq, Repr

/-- `_Partition`: the files of one scan of a table. -/
structure Batch where
  /-- Tells a batch from others that were registered under the same key before it. -/
  serial : Nat
  table : TableReference
  /-- The different ids of the files, in the order of their code points. -/
  fileIds : List String
  /-- The service that was registered last. -/
  refresher : Option Issuer
  /-- How many scans hold the batch. -/
  holders : Nat
  lease : Option Lease
  /-- Counts the refreshes that have ended. -/
  generation : Nat
  /-- How the last refresh failed, if it did. -/
  lastFault : Option Fault
  deriving DecidableEq, Repr

/-- What has happened to a cache so far. -/
structure CacheStats where
  hits : Nat := 0
  misses : Nat := 0
  refreshes : Nat := 0
  refreshFailures : Nat := 0
  evictions : Nat := 0
  deriving DecidableEq, Repr

/-- What a cache is told when it is made. -/
structure CacheSettings where
  /-- The service for batches without their own. -/
  issuer : Option Issuer
  /-- How long before its expiration a link stops being fresh, in milliseconds. -/
  refreshSkew : Int
  maxEntries : Nat
  lease : Seconds
  refreshTimeout : Seconds
  deriving DecidableEq, Repr

/-- `PresignedUrlCache`: a cache of signed links. -/
structure Cache where
  settings : CacheSettings
  /-- The links, least recently used first. -/
  entries : OrderedMap EntryKey Link
  batches : OrderedMap String Batch
  stats : CacheStats
  /-- Whether the background sweeper runs. -/
  sweeping : Bool
  /-- The next number for a batch or a lease; numbers are not used twice. -/
  nextNumber : Nat

/-- What the clocks say during a stretch. The clock of expirations counts milliseconds since 1970
and may fail; the other clock never goes back. -/
structure Moment where
  epoch : Except Fault Int
  monotonic : Seconds
  /-- The clock of expirations when the same stretch reads it once more. -/
  again : Except Fault Int := epoch

namespace Moment

/-- A stretch during which the clocks do not move. -/
def still (now : Int) (monotonic : Seconds) : Moment := { epoch := .ok now, monotonic }

/-- The rest of a stretch that has read the clock of expirations. -/
def rest (m : Moment) : Moment := { m with epoch := m.again }

/-- Whether the clock of expirations says what time it is whenever it is read, as it is meant to.
What a broken clock would falsify is proved with this as its hypothesis. -/
structure Readable (m : Moment) : Prop where
  first : ∃ now, m.epoch = .ok now
  second : ∃ now, m.again = .ok now

/-- Whether the clock of expirations fails, at either reading. -/
def Fails (m : Moment) (fault : Fault) : Prop := m.epoch = .error fault ∨ m.again = .error fault

theorem Readable.not_fails {m : Moment} {fault : Fault} (readable : m.Readable) :
    ¬ m.Fails fault := by
  obtain ⟨⟨now, first⟩, ⟨later, second⟩⟩ := readable
  simp [Fails, first, second]

theorem Readable.epoch_ne {m : Moment} {fault : Fault} (readable : m.Readable) :
    m.epoch ≠ .error fault :=
  fun failed => readable.not_fails (Or.inl failed)

theorem Readable.still (now : Int) (monotonic : Seconds) : (still now monotonic).Readable :=
  ⟨⟨now, rfl⟩, ⟨now, rfl⟩⟩

end Moment

/-- Why a cache cannot be made. -/
inductive CacheSettingsError
  /-- A cache cannot hold no entries. -/
  | noCapacity (maxEntries : Int)
  /-- Links would have to be fresh, or not, without end before they expire. -/
  | endlessSkew
  deriving DecidableEq, Repr

/-- The words for the error, if it has any. -/
def CacheSettingsError.message : CacheSettingsError → Option String
  | .noCapacity maxEntries => some ("max_entries must be > 0, got " ++ toString maxEntries)
  | .endlessSkew => none

namespace CacheSettings

/-- The shortest lease. -/
def shortestLease : Seconds := Seconds.ofMillis 10

/-- `PresignedUrlCache.__init__`: settings from numbers of seconds, which are rounded. Leases that
are too short are made longer, and a negative limit for waiting counts as none. -/
def ofSeconds (issuer : Option Issuer) (skew : Rat) (maxEntries : Int) (lease timeout : Rat) :
    Except CacheSettingsError CacheSettings :=
  let lease := Seconds.round lease
  let timeout := Seconds.round timeout
  if maxEntries ≤ 0 then .error (.noCapacity maxEntries)
  else
    match Seconds.toMillis? (Seconds.round skew) with
    | none => .error .endlessSkew
    | some refreshSkew =>
      .ok {
        issuer
        refreshSkew
        maxEntries := maxEntries.toNat
        lease := if lease < shortestLease then shortestLease else lease
        refreshTimeout := if timeout < 0 then 0 else timeout }

end CacheSettings

namespace Cache

/-- A cache without links. -/
def new (settings : CacheSettings) : Cache :=
  { settings, entries := .empty, batches := .empty, stats := {}, sweeping := false
    nextNumber := 0 }

/-- `PresignedUrlCache._is_fresh`: whether a link may still be handed out at a time. -/
def isFresh (c : Cache) (link : Link) (now : Int) : Bool :=
  decide (now < link.expiration - c.settings.refreshSkew)

/-- `PresignedUrlCache.stats`: the numbers of links and batches. -/
def entryCount (c : Cache) : Nat := c.entries.size

@[inherit_doc entryCount]
def batchCount (c : Cache) : Nat := c.batches.size

end Cache
end SharedTables
