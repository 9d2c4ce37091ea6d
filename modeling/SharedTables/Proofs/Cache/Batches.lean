import SharedTables.Cache.Lookup
import SharedTables.Proofs.Data.OrderedMap

/-! What each operation of a cache does to its batches. Storing links never
touches them, and a stretch of a read touches one batch at most: the one that
it begins to refresh. -/
namespace SharedTables.Cache

variable {c : Cache} {m : Moment} {tableKey key : String}

private theorem enforceCapacity_keeps : (c.enforceCapacity m).1.batches = c.batches ∧
    (c.enforceCapacity m).1.settings = c.settings ∧
      (c.enforceCapacity m).1.nextNumber = c.nextNumber := by
  unfold enforceCapacity
  split
  · exact ⟨rfl, rfl, rfl⟩
  · cases m.epoch <;> exact ⟨rfl, rfl, rfl⟩

/-- Storing links only concerns the links and the statistics. -/
theorem store_keeps (c : Cache) (m : Moment) (tableKey : String) (links : Links)
    (requested : Option EntryKey) :
    (c.store m tableKey links requested).1.batches = c.batches ∧
      (c.store m tableKey links requested).1.settings = c.settings ∧
      (c.store m tableKey links requested).1.nextNumber = c.nextNumber := by
  simpa [store] using enforceCapacity_keeps

@[simp] theorem store_batches : (c.store m tableKey links requested).1.batches = c.batches :=
  (store_keeps ..).1

@[simp] theorem store_settings : (c.store m tableKey links requested).1.settings = c.settings :=
  (store_keeps ..).2.1

@[simp] theorem store_nextNumber :
    (c.store m tableKey links requested).1.nextNumber = c.nextNumber :=
  (store_keeps ..).2.2

/-- Registering attaches a scan to the batch of its key, which is new if there
was none. -/
@[simp] theorem get?_register : (c.register m tableKey table fileIds links refresher).1.batches.get? key =
    if key = tableKey then
      some (Batch.attach ((c.batches.get? tableKey).getD (newBatch c.nextNumber table)) fileIds refresher)
    else c.batches.get? key := by
  unfold register
  split <;> simp

@[simp] theorem register_settings :
    (c.register m tableKey table fileIds links refresher).1.settings = c.settings := by
  unfold register
  split <;> simp

@[simp] theorem register_nextNumber :
    (c.register m tableKey table fileIds links refresher).1.nextNumber = c.nextNumber + 1 := by
  unfold register
  split <;> simp

@[simp] theorem get?_release : (c.release tableKey).batches.get? key =
    if key = tableKey then (c.batches.get? key).map fun b => { b with holders := b.holders - 1 }
    else c.batches.get? key :=
  OrderedMap.get?_modify

/-- A sweep keeps a batch as it is, or drops it when it has been released. -/
theorem get?_sweep_released (c : Cache) (m : Moment) (key : String) :
    (c.sweep m).1.batches.get? key = c.batches.get? key ∨
    (c.sweep m).1.batches.get? key = none ∧
      ∀ batch, c.batches.get? key = some batch → Batch.isReleased batch = true := by
  unfold sweep
  cases m.epoch with
  | error fault => exact Or.inl rfl
  | ok now =>
    simp only [sweepAt, OrderedMap.get?_filter]
    cases found : c.batches.get? key with
    | none => exact Or.inl rfl
    | some batch =>
      by_cases kept : (!Batch.isReleased batch ||
          (c.entries.filter fun entry link =>
            !(c.isReleasedKey entry.tableKey && decide (link.expiration ≤ now))).keys.any
              fun entry => entry.tableKey = key) = true
      · exact Or.inl (Option.filter_some_pos kept)
      · refine Or.inr ⟨Option.filter_some_neg (Bool.eq_false_iff.mpr kept), fun other same => ?_⟩
        simp_all

/-- A sweep never drops a batch that is being refreshed. -/
theorem get?_sweep (c : Cache) (m : Moment) (key : String) :
    (c.sweep m).1.batches.get? key = c.batches.get? key ∨
    (c.sweep m).1.batches.get? key = none ∧
      ∀ batch, c.batches.get? key = some batch → batch.lease = none := by
  obtain same | ⟨gone, released⟩ := get?_sweep_released c m key
  · exact Or.inl same
  · refine Or.inr ⟨gone, fun batch found => ?_⟩
    have free := released batch found
    simp_all [Batch.isReleased]

theorem sweep_keeps (c : Cache) (m : Moment) :
    (c.sweep m).1.settings = c.settings ∧ (c.sweep m).1.nextNumber = c.nextNumber := by
  unfold sweep
  cases m.epoch <;> exact ⟨rfl, rfl⟩

/-- How a stretch of a read can go. -/
inductive Stretch (c : Cache) (m : Moment) (l : Lookup) : Cache × ReadProgress → Prop
  /-- The read ends without a refresh of its own. -/
  | ends (batches : after.batches = c.batches) (settings : after.settings = c.settings)
      (nextNumber : after.nextNumber = c.nextNumber)
      (failures : after.stats.refreshFailures = c.stats.refreshFailures) :
      Stretch c m l (after, .done result)
  /-- Another read holds the lease, and the read keeps what it saw first. -/
  | waits (registered : c.batches.get? l.key.tableKey = some batch) (listed : l.key.fileId ∈ batch.fileIds) :
      Stretch c m l (c, .wait limit { l with seen := l.seen.or (some batch.generation) })
  /-- The lease is free, and no refresh has ended since the read first waited. -/
  | refreshes (registered : c.batches.get? l.key.tableKey = some batch)
      (unmoved : ∀ seen ∈ l.seen, seen = batch.generation)
      (free : ∀ lease ∈ batch.lease, lease.expires ≤ m.monotonic) :
      Stretch c m l (c.refreshBatch m l.key batch)

private theorem lookInBatch_stretch (l : Lookup) {batch : Batch}
    (registered : c.batches.get? l.key.tableKey = some batch) :
    Stretch c m l (c.lookInBatch m l batch) := by
  unfold lookInBatch
  split
  · exact .ends rfl rfl rfl rfl
  · rename_i listed
    split
    · simp only [afterRefresh]
      cases batch.lastFault with
      | some fault => exact .ends rfl rfl rfl rfl
      | none => cases c.entries.get? l.key <;> exact .ends rfl rfl rfl rfl
    · rename_i moved
      cases inForce : batch.lease.filter (Lease.inForce · m.monotonic) with
      | some lease =>
        simp only [awaitRefresh]
        split
        · exact .ends rfl rfl rfl rfl
        · exact .waits registered (Decidable.not_not.mp listed)
      | none =>
        refine .refreshes registered ?_ ?_
        · intro seen first
          simpa [Option.mem_def.mp first] using moved
        · intro lease held
          have expired := Option.filter_eq_none_iff.mp inForce lease held
          simpa [Lease.inForce, Rat.not_lt] using expired

theorem look_stretch (c : Cache) (m : Moment) (l : Lookup) : Stretch c m l (c.look m l) := by
  unfold look
  cases c.freshLink? m l.key with
  | error fault => exact .ends rfl rfl rfl rfl
  | ok found =>
    cases found with
    | some link => exact .ends rfl rfl rfl rfl
    | none =>
      cases registered : c.batches.get? l.key.tableKey with
      | none => exact .ends rfl rfl rfl rfl
      | some batch => exact lookInBatch_stretch l registered

/-- Taking a lease gives it the next number and leaves all else in the batch. -/
@[simp] theorem get?_takeLease {entry : EntryKey} {batch : Batch} :
    (c.takeLease m entry batch).1.batches.get? key =
      if key = entry.tableKey then
        (c.batches.get? key).map fun b =>
          { b with lease := some ⟨c.nextNumber, Seconds.later m.monotonic c.settings.lease⟩ }
      else c.batches.get? key :=
  OrderedMap.get?_modify

theorem refreshBatch_served {entry : EntryKey} {batch : Batch} {issuer : Issuer}
    (served : c.issuerFor batch = some issuer) : c.refreshBatch m entry batch =
      ((c.takeLease m entry batch).1, .sign issuer (c.takeLease m entry batch).2) := by
  simp only [refreshBatch, served]

@[simp] theorem get?_settleBatch {r : Refresh} {fault : Option Fault} :
    (c.settleBatch r fault).batches.get? key =
      if key = r.key.tableKey then (c.batches.get? key).map (Batch.settle · r fault)
      else c.batches.get? key :=
  OrderedMap.get?_modify

/-- Without a service a refresh ends at once: the lease is given back, and the
batch notes the failure. -/
theorem refreshBatch_unserved {entry : EntryKey} {batch : Batch}
    (registered : c.batches.get? entry.tableKey = some batch) (unserved : c.issuerFor batch = none) :
    ∃ after result fault, c.refreshBatch m entry batch = (after, .done result) ∧
      fault = .credential (.noIssuerForBatch entry.tableKey) ∧
      (∀ key, after.batches.get? key = if key = entry.tableKey then
        some { batch with
          lease := none, generation := batch.generation + 1, lastFault := some fault }
        else c.batches.get? key) ∧
      after.settings = c.settings ∧ after.nextNumber = c.nextNumber + 1 ∧
      after.stats.refreshFailures = c.stats.refreshFailures + 1 := by
  let refused : Fault := .credential (.noIssuerForBatch entry.tableKey)
  refine ⟨((c.takeLease m entry batch).1.refreshFailed (c.takeLease m entry batch).2 refused).1, _, refused,
    by simp only [refreshBatch, unserved]; rfl, rfl, fun key => ?_, rfl, rfl, rfl⟩
  have own : (c.takeLease m entry batch).2.key = entry := rfl
  have settled : ((c.takeLease m entry batch).1.refreshFailed
      (c.takeLease m entry batch).2 refused).1.batches.get? key = _ :=
    get?_settleBatch (c := (c.takeLease m entry batch).1)
  rw [settled, own, get?_takeLease]
  split
  · rename_i mine
    subst mine
    simp [registered, Batch.settle, takeLease]
  · rfl

/-- How a refresh that a service has answered ends: with a fault or well. It
does not end when the clock fails while links are stored; its lease is then
left behind. -/
def outcome? (c : Cache) (m : Moment) (r : Refresh) (answer : Signature) : Option (Option Fault) :=
  match answer with
  | .error fault => some (some fault)
  | .ok links =>
    match (c.store m r.key.tableKey (links.getD .empty) (some r.key)).2 with
    | .ok () => some none
    | .error _ => none

theorem enforceCapacity_result : (c.enforceCapacity m).2 =
    if c.entries.size ≤ c.settings.maxEntries then .ok () else m.epoch.map fun _ => () := by
  unfold enforceCapacity
  split
  · rfl
  · cases m.epoch <;> rfl

/-- The end of a refresh is noted in the batch of its key. -/
theorem finishRefresh_spec (c : Cache) (m : Moment) (r : Refresh) (answer : Signature) :
    (∀ key, (c.finishRefresh m r answer).1.batches.get? key =
      match c.outcome? m r answer with
      | some fault =>
        if key = r.key.tableKey then (c.batches.get? key).map (Batch.settle · r fault)
        else c.batches.get? key
      | none => c.batches.get? key) ∧
    (c.finishRefresh m r answer).1.settings = c.settings ∧
      (c.finishRefresh m r answer).1.nextNumber = c.nextNumber := by
  cases answer with
  | error fault => exact ⟨fun _ => get?_settleBatch, rfl, rfl⟩
  | ok links =>
    let counted := { c with stats := { c.stats with refreshes := c.stats.refreshes + 1 } }
    have keeps := store_keeps counted m r.key.tableKey (links.getD .empty) (some r.key)
    have same : (counted.store m r.key.tableKey (links.getD .empty) (some r.key)).2 =
        (c.store m r.key.tableKey (links.getD .empty) (some r.key)).2 := by
      simp only [store, enforceCapacity_result, counted]
    simp only [outcome?, finishRefresh, refreshed]
    rw [← same]
    rcases stored : counted.store m r.key.tableKey (links.getD .empty) (some r.key) with ⟨after, _ | _⟩ <;>
      rw [stored] at keeps
    · exact ⟨fun key => by rw [keeps.1], keeps.2.1, keeps.2.2⟩
    · exact ⟨fun key => by rw [get?_settleBatch, keeps.1], keeps.2.1, keeps.2.2⟩

end SharedTables.Cache
