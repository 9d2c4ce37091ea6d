import SharedTables.Cache.Basic

/-! How links and batches enter a cache and leave it. -/
namespace SharedTables.Cache

/-- Links without the first `count` that have expired. -/
def withoutExpired (now : Int) : Nat → List (EntryKey × Link) → List (EntryKey × Link)
  | 0, entries => entries
  | _, [] => []
  | count + 1, entry :: rest =>
    if entry.2.expiration ≤ now then withoutExpired now count rest
    else entry :: withoutExpired now (count + 1) rest

theorem withoutExpired_sublist (now : Int) (count : Nat) (entries : List (EntryKey × Link)) :
    (withoutExpired now count entries).Sublist entries := by
  fun_induction withoutExpired now count entries with
  | case1 => exact List.Sublist.refl _
  | case2 => exact List.Sublist.refl _
  | case3 _ _ _ _ ih => exact ih.cons _
  | case4 _ _ _ _ ih => exact ih.cons_cons _

/-- Links of which the overflow has been evicted: expired ones first, then those not used for the
longest time. -/
def evictOverflow (now : Int) (room : Nat) (entries : OrderedMap EntryKey Link) :
    OrderedMap EntryKey Link :=
  let kept : OrderedMap EntryKey Link :=
    ⟨withoutExpired now (entries.size - room) entries.entries,
      entries.nodup.sublist ((withoutExpired_sublist _ _ _).map _)⟩
  kept.drop (kept.size - room)

/-- `PresignedUrlCache._enforce_capacity`: evicts the overflow. The clock is read only when there is
some. -/
def enforceCapacity (c : Cache) (m : Moment) : Cache × Except Fault Unit :=
  if c.entries.size ≤ c.settings.maxEntries then (c, .ok ())
  else
    match m.epoch with
    | .error fault => (c, .error fault)
    | .ok now =>
      let kept := evictOverflow now c.settings.maxEntries c.entries
      ({ c with
        entries := kept
        stats := { c.stats with evictions := c.stats.evictions + (c.entries.size - kept.size) } },
        .ok ())

/-- Puts links under a table key, the last one most recently used. -/
def putLinks (tableKey : String) (links : Links) (entries : OrderedMap EntryKey Link) :
    OrderedMap EntryKey Link :=
  links.entries.foldl (fun entries p => entries.push ⟨tableKey, p.1⟩ p.2) entries

/-- `PresignedUrlCache._store`: stores links under a table key. A requested entry becomes the most
recently used one. -/
def store (c : Cache) (m : Moment) (tableKey : String) (links : Links)
    (requested : Option EntryKey) : Cache × Except Fault Unit :=
  let entries := putLinks tableKey links c.entries
  let entries := match requested with
    | some key => entries.touch key
    | none => entries
  enforceCapacity { c with entries } m

/-- A batch that no scan holds yet. -/
def newBatch (serial : Nat) (table : TableReference) : Batch :=
  { serial, table, fileIds := [], refresher := none, holders := 0, lease := none, generation := 0,
    lastFault := none }

/-- One more scan holds a batch and adds its files. -/
def Batch.attach (b : Batch) (fileIds : List String) (refresher : Option Issuer) : Batch :=
  { b with
    fileIds := Text.distinctSorted (b.fileIds ++ fileIds)
    holders := b.holders + 1
    refresher := refresher.or b.refresher }

/-- `PresignedUrlCache.register`: attaches a scan to the batch of a table key, which is made if
there is none, and stores links that came with it. Scans with the same key share the batch. -/
def register (c : Cache) (m : Moment) (tableKey : String) (table : TableReference)
    (fileIds : List String) (links : Links) (refresher : Option Issuer) :
    Cache × Except Fault Unit :=
  let batch := (c.batches.get? tableKey).getD (newBatch c.nextNumber table)
  let c := { c with
    batches := c.batches.insert tableKey (Batch.attach batch fileIds refresher)
    nextNumber := c.nextNumber + 1 }
  if links.entries.isEmpty then (c, .ok ()) else store c m tableKey links none

/-- `PresignedUrlCache.release`: detaches a scan from a batch. -/
def release (c : Cache) (tableKey : String) : Cache :=
  { c with batches := c.batches.modify tableKey fun b => { b with holders := b.holders - 1 } }

/-- `PresignedUrlCache.fresh_entries`: the links of some files that are fresh, in the order of the
request. -/
def freshLinks (c : Cache) (m : Moment) (tableKey : String) (fileIds : List String) :
    Except Fault Links :=
  match m.epoch with
  | .error fault => .error fault
  | .ok now =>
    .ok (.ofList (fileIds.filterMap fun fileId =>
      match c.entries.get? ⟨tableKey, fileId⟩ with
      | some link => if c.isFresh link now then some (fileId, link) else none
      | none => none))

/-- `PresignedUrlCache.size`: the number of links that have not expired. -/
def liveCount (c : Cache) (m : Moment) : Except Fault Nat :=
  match m.epoch with
  | .error fault => .error fault
  | .ok now => .ok (c.entries.entries.countP fun entry => decide (now < entry.2.expiration))

/-- Whether a batch is held by no scan and is not being refreshed. -/
def Batch.isReleased (b : Batch) : Bool := b.holders == 0 && b.lease.isNone

/-- Whether the batch of a table key is there and released. -/
def isReleasedKey (c : Cache) (tableKey : String) : Bool :=
  match c.batches.get? tableKey with
  | some batch => Batch.isReleased batch
  | none => false

/-- `PresignedUrlCache.refresh`, once the clock has been read: removes the expired links of released
batches and the released batches that have no links left. The number of removed links is the
result. -/
def sweepAt (c : Cache) (now : Int) : Cache × Nat :=
  let entries := c.entries.filter fun key link =>
    !(c.isReleasedKey key.tableKey && decide (link.expiration ≤ now))
  let removed := c.entries.size - entries.size
  let batches := c.batches.filter fun tableKey batch =>
    !Batch.isReleased batch || entries.keys.any fun key => key.tableKey = tableKey
  ({ c with
    entries
    batches
    stats := { c.stats with evictions := c.stats.evictions + removed } }, removed)

/-- `PresignedUrlCache.refresh`, whole: sweeps the cache at a moment. -/
def sweep (c : Cache) (m : Moment) : Cache × Except Fault Nat :=
  match m.epoch with
  | .error fault => (c, .error fault)
  | .ok now => let (c, removed) := c.sweepAt now; (c, .ok removed)

/-- `PresignedUrlCache.start`: starts the background sweeper, which keeps running when it was
started before. -/
def start (c : Cache) : Cache := { c with sweeping := true }

/-- `PresignedUrlCache.shutdown`: stops the background sweeper and drops every link and batch. -/
def shutdown (c : Cache) : Cache :=
  { c with entries := .empty, batches := .empty, sweeping := false }

end SharedTables.Cache
