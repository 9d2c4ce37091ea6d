import SharedTables.Proofs.Cache.Entries

/-! Who holds a batch, and which files it has. Registering adds a holder and
files, releasing takes a holder away, and nothing else touches either: a read
only changes the lease and the counts of refreshes, and a sweep drops no batch
that is held. -/
namespace SharedTables.Cache

variable {c : Cache} {m : Moment} {tableKey key fileId : String} {fileIds : List String}

/-- The batch of a key, but for its refreshes. -/
def standing (c : Cache) (key : String) : Option Batch :=
  (c.batches.get? key).map fun batch => { batch with lease := none, generation := 0, lastFault := none }

/-- The holders and the files of the batch of a key. -/
def roll (c : Cache) (key : String) : Option (Nat × List String) :=
  (c.batches.get? key).map fun batch => (batch.holders, batch.fileIds)

/-- How many scans hold the batch of a key. -/
def holders (c : Cache) (key : String) : Nat := ((c.roll key).map Prod.fst).getD 0

/-- The files of the batch of a key. -/
def files (c : Cache) (key : String) : List String := ((c.roll key).map Prod.snd).getD []

/-- The lease of the batch of a key, with the number of the batch. -/
def leaseOf (c : Cache) (key : String) : Option (Nat × Lease) :=
  (c.batches.get? key).bind fun batch => batch.lease.map (batch.serial, ·)

theorem roll_eq_standing (c : Cache) :
    c.roll key = (c.standing key).map fun batch => (batch.holders, batch.fileIds) := by
  simp [roll, standing, Function.comp_def]

theorem holders_eq {batch : Batch} (found : c.batches.get? key = some batch) :
    c.holders key = batch.holders := by
  simp [holders, roll, found]

theorem files_eq {batch : Batch} (found : c.batches.get? key = some batch) : c.files key = batch.fileIds := by
  simp [files, roll, found]

/-- A batch that is held is there. -/
theorem get?_of_held (held : 0 < c.holders key) :
    ∃ batch, c.batches.get? key = some batch ∧ batch.holders = c.holders key := by
  cases found : c.batches.get? key with
  | none => simp [holders, roll, found] at held
  | some batch => exact ⟨batch, rfl, (holders_eq found).symm⟩

theorem get?_of_mem_files (listed : fileId ∈ c.files key) :
    ∃ batch, c.batches.get? key = some batch ∧ fileId ∈ batch.fileIds := by
  cases found : c.batches.get? key with
  | none => simp [files, roll, found] at listed
  | some batch => exact ⟨batch, rfl, files_eq found ▸ listed⟩

@[simp] theorem leaseOf_new (settings : CacheSettings) : (new settings).leaseOf key = none := rfl

theorem holders_register {table : TableReference} {links : Links} {refresher : Option Issuer} :
    (c.register m tableKey table fileIds links refresher).1.holders key =
      c.holders key + if key = tableKey then 1 else 0 := by
  by_cases same : key = tableKey
  · subst same
    cases found : c.batches.get? key <;> simp [holders, roll, found, Batch.attach, newBatch]
  · simp [holders, roll, same]

/-- The files of a batch stay, and those of the new scan are added. -/
theorem mem_files_register {table : TableReference} {links : Links} {refresher : Option Issuer} :
    fileId ∈ (c.register m tableKey table fileIds links refresher).1.files key ↔
      fileId ∈ c.files key ∨ key = tableKey ∧ fileId ∈ fileIds := by
  by_cases same : key = tableKey
  · subst same
    cases found : c.batches.get? key <;>
      simp [files, roll, found, Batch.attach, newBatch, Text.mem_distinctSorted]
  · simp [files, roll, same]

theorem leaseOf_register {table : TableReference} {links : Links} {refresher : Option Issuer} :
    (c.register m tableKey table fileIds links refresher).1.leaseOf key = c.leaseOf key := by
  by_cases same : key = tableKey
  · subst same
    cases found : c.batches.get? key <;> simp [leaseOf, found, Batch.attach, newBatch]
  · simp [leaseOf, same]

theorem holders_release : (c.release tableKey).holders key = c.holders key - if key = tableKey then 1 else 0 := by
  by_cases same : key = tableKey
  · subst same
    cases found : c.batches.get? key <;> simp [holders, roll, found]
  · simp [holders, roll, same]

theorem files_release : (c.release tableKey).files key = c.files key := by
  by_cases same : key = tableKey
  · subst same
    cases found : c.batches.get? key <;> simp [files, roll, found]
  · simp [files, roll, same]

theorem leaseOf_release : (c.release tableKey).leaseOf key = c.leaseOf key := by
  by_cases same : key = tableKey
  · subst same
    cases found : c.batches.get? key <;> simp [leaseOf, found]
  · simp [leaseOf, same]

/-- Releasing batches takes one holder away for each time that a key is given back. -/
theorem releases_keep (keys : List String) (c : Cache) :
    (keys.foldl release c).holders key = c.holders key - keys.count key ∧
      (keys.foldl release c).files key = c.files key ∧
      (keys.foldl release c).leaseOf key = c.leaseOf key := by
  induction keys generalizing c with
  | nil => exact ⟨rfl, rfl, rfl⟩
  | cons tableKey keys ih =>
    obtain ⟨held, listed, leased⟩ := ih (c.release tableKey)
    refine ⟨?_, listed.trans files_release, leased.trans leaseOf_release⟩
    rw [List.foldl_cons, held, holders_release, List.count_cons]
    by_cases same : key = tableKey
    · simp only [same, ↓reduceIte, beq_self_eq_true]
      omega
    · simp [same, Ne.symm same]

/-- A sweep does not touch a batch that is held. -/
theorem get?_sweep_held (held : 0 < c.holders key) : (c.sweep m).1.batches.get? key = c.batches.get? key := by
  obtain same | ⟨-, released⟩ := get?_sweep_released c m key
  · exact same
  · obtain ⟨batch, found, holders⟩ := get?_of_held held
    have free := released batch found
    simp only [Batch.isReleased, Bool.and_eq_true, beq_iff_eq] at free
    omega

theorem holders_sweep : (c.sweep m).1.holders key = c.holders key := by
  obtain same | ⟨gone, -⟩ := get?_sweep_released c m key
  · simp [holders, roll, same]
  · have free : c.holders key = 0 := by
      refine Nat.eq_zero_of_not_pos fun held => ?_
      obtain ⟨batch, found, -⟩ := get?_of_held held
      rw [get?_sweep_held held, found] at gone
      cases gone
    rw [free]
    simp [holders, roll, gone]

theorem leaseOf_sweep : (c.sweep m).1.leaseOf key = c.leaseOf key := by
  obtain same | ⟨gone, unleased⟩ := get?_sweep c m key
  · simp [leaseOf, same]
  · cases found : c.batches.get? key with
    | none => simp [leaseOf, gone, found]
    | some batch => simp [leaseOf, gone, found, unleased batch found]

/-- A batch without a holder and a lease goes with all its links in the first
sweep after the last of them has expired. -/
theorem sweep_drops {now : Int} (clock : m.epoch = .ok now) (held : c.holders key = 0)
    (unleased : c.leaseOf key = none) (registered : c.batches.get? key = some batch)
    (expired : ∀ fileId link, c.entries.get? ⟨key, fileId⟩ = some link → link.expiration ≤ now) :
    (c.sweep m).1.batches.get? key = none ∧ ∀ fileId, (c.sweep m).1.entries.get? ⟨key, fileId⟩ = none := by
  have released : Batch.isReleased batch = true := by
    have free : batch.holders = 0 := (holders_eq registered).symm.trans held
    have idle : batch.lease = none := by simpa [leaseOf, registered] using unleased
    simp [Batch.isReleased, free, idle]
  have releasedKey : c.isReleasedKey key = true := by simp [isReleasedKey, registered, released]
  have links (fileId : String) : (c.sweep m).1.entries.get? ⟨key, fileId⟩ = none := by
    simp only [sweep, clock, sweepAt, OrderedMap.get?_filter, Option.filter_eq_none_iff]
    intro link found
    simp [releasedKey, expired fileId link found]
  have empty : (c.sweep m).1.entries.keys.any (fun entry => entry.tableKey = key) = false := by
    rw [List.any_eq_false]
    intro entry member same
    obtain ⟨link, found⟩ := OrderedMap.mem_keys_iff.mp member
    have own : entry = ⟨key, entry.fileId⟩ := by
      cases entry
      simpa using same
    rw [own, links] at found
    cases found
  have batches : (c.sweep m).1.batches = c.batches.filter fun tableKey batch =>
      !Batch.isReleased batch || (c.sweep m).1.entries.keys.any fun entry => entry.tableKey = tableKey := by
    simp only [sweep, clock, sweepAt]
  refine ⟨?_, links⟩
  rw [batches, OrderedMap.get?_filter, registered, Option.filter_some_neg]
  simp only [released, empty]
  decide

/-- A stretch of a read only changes how the refreshes of its batch stand. -/
theorem standing_look (l : Lookup) : (c.look m l).1.standing key = c.standing key := by
  have stretch := look_stretch c m l
  generalize c.look m l = went at stretch
  cases stretch with
  | ends batches => simp [standing, batches]
  | waits => rfl
  | @refreshes batch registered =>
    cases served : c.issuerFor batch with
    | some issuer =>
      rw [refreshBatch_served served]
      by_cases same : key = l.key.tableKey
      · subst same
        simp [standing, registered]
      · simp [standing, same]
    | none =>
      obtain ⟨after, result, fault, refused, -, batches, -⟩ := refreshBatch_unserved (m := m) registered served
      rw [refused]
      by_cases same : key = l.key.tableKey
      · subst same
        simp [standing, batches, registered]
      · simp [standing, batches, same]

theorem roll_look (l : Lookup) : (c.look m l).1.roll key = c.roll key := by
  rw [roll_eq_standing, roll_eq_standing, standing_look]

/-- A stretch of a read takes the lease of its batch only to let a service
sign, and otherwise takes none. -/
theorem leaseOf_look (l : Lookup) (leased : (c.look m l).1.leaseOf key = some (serial, lease)) :
    c.leaseOf key = some (serial, lease) ∨
      ∃ issuer refresh, (c.look m l).2 = .sign issuer refresh ∧
        refresh.key.tableKey = key ∧ refresh.serial = serial ∧ refresh.token = lease.token := by
  have stretch := look_stretch c m l
  generalize c.look m l = went at stretch leased
  cases stretch with
  | ends batches => exact Or.inl (by simpa [leaseOf, batches] using leased)
  | waits => exact Or.inl leased
  | @refreshes batch registered =>
    by_cases same : key = l.key.tableKey
    · subst same
      cases served : c.issuerFor batch with
      | some issuer =>
        rw [refreshBatch_served served] at leased ⊢
        simp only [leaseOf, get?_takeLease, registered, ↓reduceIte, Option.map_some, Option.bind_some,
          Option.some.injEq, Prod.mk.injEq] at leased
        obtain ⟨rfl, rfl⟩ := leased
        exact Or.inr ⟨_, _, rfl, rfl, rfl, rfl⟩
      | none =>
        obtain ⟨after, result, fault, refused, -, batches, -⟩ := refreshBatch_unserved (m := m) registered served
        rw [refused] at leased
        simp [leaseOf, batches] at leased
    · refine Or.inl ?_
      cases served : c.issuerFor batch with
      | some issuer =>
        rw [refreshBatch_served served] at leased
        simpa [leaseOf, same] using leased
      | none =>
        obtain ⟨after, result, fault, refused, -, batches, -⟩ := refreshBatch_unserved (m := m) registered served
        rw [refused] at leased
        simpa [leaseOf, batches, same] using leased

/-- The end of a refresh only changes how the refreshes of its batch stand. -/
theorem standing_finishRefresh (r : Refresh) (answer : Signature) :
    (c.finishRefresh m r answer).1.standing key = c.standing key := by
  rw [standing, (finishRefresh_spec c m r answer).1]
  cases c.outcome? m r answer with
  | none => rfl
  | some fault =>
    by_cases same : key = r.key.tableKey
    · subst same
      cases found : c.batches.get? r.key.tableKey with
      | none => simp [standing, found]
      | some batch =>
        simp only [standing, found, ↓reduceIte, Option.map_some, Batch.settle]
        split <;> rfl
    · simp [standing, same]

theorem roll_finishRefresh (r : Refresh) (answer : Signature) :
    (c.finishRefresh m r answer).1.roll key = c.roll key := by
  rw [roll_eq_standing, roll_eq_standing, standing_finishRefresh]

/-- As long as the clock can be read, the end of a refresh gives its own lease
back, and every other lease stays. -/
theorem leaseOf_finishRefresh (r : Refresh) (answer : Signature) (clock : m.epoch = .ok now)
    (leased : (c.finishRefresh m r answer).1.leaseOf key = some (serial, lease)) :
    c.leaseOf key = some (serial, lease) ∧
      ¬ (r.key.tableKey = key ∧ r.serial = serial ∧ r.token = lease.token) := by
  have ended : ∃ fault, c.outcome? m r answer = some fault := by
    cases answer with
    | error fault => exact ⟨_, rfl⟩
    | ok links =>
      simp only [outcome?, store_succeeds c r.key.tableKey (links.getD .empty) (some r.key) clock]
      exact ⟨_, rfl⟩
  obtain ⟨fault, ended⟩ := ended
  rw [leaseOf, (finishRefresh_spec c m r answer).1, ended] at leased
  by_cases same : key = r.key.tableKey
  · subst same
    cases found : c.batches.get? r.key.tableKey with
    | none => simp [found] at leased
    | some batch =>
      simp only [found, ↓reduceIte, Option.map_some, Option.bind_some, Batch.settle] at leased
      split at leased
      · rename_i own
        simp only [Option.map_eq_some_iff, Option.filter_eq_some_iff, Prod.mk.injEq] at leased
        obtain ⟨held, ⟨holds, others⟩, rfl, rfl⟩ := leased
        refine ⟨by simp [leaseOf, found, holds], ?_⟩
        rintro ⟨-, -, token⟩
        simp [token] at others
      · rename_i other
        simp only [Option.map_eq_some_iff, Prod.mk.injEq] at leased
        obtain ⟨held, holds, rfl, rfl⟩ := leased
        refine ⟨by simp [leaseOf, found, holds], ?_⟩
        rintro ⟨-, serial, -⟩
        exact other serial.symm
  · simp only [same, ↓reduceIte] at leased
    refine ⟨leased, ?_⟩
    rintro ⟨key, -⟩
    exact same key.symm

end SharedTables.Cache
