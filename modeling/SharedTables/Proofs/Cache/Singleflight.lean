import SharedTables.Proofs.Cache.Leases
import SharedTables.Proofs.Text.Sorted

/-! Refreshes of a batch are shared. A read lets a service sign only when no
other refresh of the batch holds a lease that has not expired, it does so once
with all files of the batch, and not at all if a refresh ended while it waited. -/
namespace SharedTables.Cache.Traffic

/-- A new sign call is made by a read that waited, which found the lease free
and saw no refresh end since it first waited. -/
theorem Change.starts {read : Nat} (change : Change t m t')
    (starts : t'.signCalls = (read, call) :: t.signCalls) :
    ∃ l batch issuer, t.Waiting read l ∧ t.cache.batches.get? l.key.tableKey = some batch ∧
      (∀ seen ∈ l.seen, seen = batch.generation) ∧
      (∀ lease ∈ batch.lease, lease.expires ≤ m.monotonic) ∧
      call = ⟨issuer, (t.cache.takeLease m l.key batch).2, m.monotonic⟩ := by
  have grows (calls : List (Nat × SignCall)) : calls ≠ (read, call) :: calls := fun same => by
    simpa using congrArg List.length same
  cases change with
  | registers | releases | sweeps | begins | ends | waits | unserved | answers =>
    exact absurd starts (grows _)
  | signs read' l batch issuer call' waiting registered unmoved free started =>
    obtain ⟨rfl, rfl⟩ := Prod.mk.inj (List.cons.inj starts).1
    exact ⟨l, batch, issuer, waiting, registered, unmoved, free, started⟩

/-- A sign call is made by a read that was waiting, or by one that begins. -/
theorem step_starts {t : Traffic} {e : Event} {read : Nat}
    (starts : (t.step e).signCalls = (read, call) :: t.signCalls) :
    ∃ l batch issuer, (t.Waiting read l ∨ read = t.reads.length) ∧
      t.cache.batches.get? l.key.tableKey = some batch ∧
      (∀ seen ∈ l.seen, seen = batch.generation) ∧
      (∀ lease ∈ batch.lease, lease.expires ≤ e.moment.monotonic) ∧
      call = ⟨issuer, (t.cache.takeLease e.moment l.key batch).2, e.moment.monotonic⟩ := by
  have grows (calls : List (Nat × SignCall)) : calls ≠ (read, call) :: calls := fun same => by
    simpa using congrArg List.length same
  obtain same | change | ⟨first, unseen, change⟩ | ⟨down, same⟩ := step_cases t e
  · rw [same] at starts
    exact absurd starts (grows _)
  · obtain ⟨l, batch, issuer, waiting, found⟩ := change.starts starts
    exact ⟨l, batch, issuer, Or.inl waiting, found⟩
  · obtain ⟨l, batch, issuer, waiting, found⟩ := change.starts starts
    refine ⟨l, batch, issuer, ?_, found⟩
    rw [Waiting, begin, List.getElem?_append] at waiting
    grind
  · rw [same] at starts
    exact absurd starts (grows _)

theorem Change.reads_grow (change : Change t m t') : t.reads.length ≤ t'.reads.length := by
  cases change <;> simp [begin, answer]

/-- A read that waits has waited before for the same file, and remembers what
it saw first; or it has just begun. -/
theorem Change.waiting (change : Change t m t') {read : Nat} {l' : Lookup} (waiting : t'.Waiting read l') :
    (∃ l, t.Waiting read l ∧ l'.key = l.key ∧ ∀ seen, l.seen = some seen → l'.seen = some seen) ∨
      read = t.reads.length := by
  have unchanged (before : t.Waiting read l') : ∃ l, t.Waiting read l ∧ l'.key = l.key ∧
      ∀ seen, l.seen = some seen → l'.seen = some seen := ⟨l', before, rfl, fun _ same => same⟩
  cases change with
  | registers | releases | sweeps => exact Or.inl (unchanged waiting)
  | begins l unseen =>
    rw [Waiting, begin, List.getElem?_append] at waiting
    split at waiting
    · exact Or.inl (unchanged waiting)
    · rename_i past
      obtain ⟨inside, -⟩ := List.getElem?_eq_some_iff.mp waiting
      simp only [List.length_cons, List.length_nil] at inside
      exact Or.inr (by omega)
  | ends | unserved | signs | answers =>
    obtain ⟨-, new⟩ | before := Waiting.of_set waiting
    · cases new
    · exact Or.inl (unchanged before)
  | waits read' l batch before =>
    obtain ⟨rfl, new⟩ | before' := Waiting.of_set waiting
    · cases new
      exact Or.inl ⟨l, before, rfl, fun seen first => by simp [first]⟩
    · exact Or.inl (unchanged before')

/-- A read for which a service has been asked to sign does not wait any more. -/
def Spent (t : Traffic) : Prop :=
  ∀ read call, (read, call) ∈ t.signCalls → read < t.reads.length ∧ ∀ l, ¬ t.Waiting read l

theorem Spent.changed (spent : Spent t) (change : Change t m t') : Spent t' := by
  have old (read : Nat) (call : SignCall) (asked : (read, call) ∈ t.signCalls) :
      read < t'.reads.length ∧ ∀ l, ¬ t'.Waiting read l := by
    obtain ⟨known, done⟩ := spent read call asked
    refine ⟨Nat.lt_of_lt_of_le known change.reads_grow, fun l' waiting => ?_⟩
    obtain ⟨l, before, -⟩ | new := change.waiting waiting
    · exact done l before
    · omega
  intro read call asked
  cases change with
  | signs read' l batch issuer call' waiting =>
    obtain new | before := List.mem_cons.mp asked
    · obtain ⟨rfl, rfl⟩ := Prod.mk.inj new
      obtain ⟨known, -⟩ := List.getElem?_eq_some_iff.mp waiting
      refine ⟨by simpa using known, fun l' waiting' => ?_⟩
      simp [Waiting, known] at waiting'
    · exact old read call before
  | _ => exact old read call asked

theorem spent_run (settings : CacheSettings) (calls : List Event) : Spent (run settings calls) := by
  refine run_holds Spent ?_ Spent.changed id calls
  intro read call asked
  simp [run] at asked

/-- The file ids that an event registers under a table key. -/
def idsFor (tableKey : String) (e : Event) : List String :=
  match e.call with
  | .register key _ fileIds _ _ => if key = tableKey then fileIds else []
  | _ => []

/-- The file ids registered under a table key since its batch was created.
When there is no batch, ids that were registered before are forgotten. -/
def registeredIds (settings : CacheSettings) (tableKey : String) : List Event → List String
  | [] => []
  | e :: earlier =>
    if ((run settings earlier).cache.batches.get? tableKey).isSome then
      registeredIds settings tableKey earlier ++ idsFor tableKey e
    else idsFor tableKey e

/-- Whether two states of a batch differ neither in its number nor in its files. -/
def SameFiles (before after : Batch) : Prop :=
  after.serial = before.serial ∧ after.fileIds = before.fileIds

/-- Reading never changes which files a batch has. -/
theorem look_fileIds {c : Cache} {m : Moment} {l : Lookup} {key : String} {batch' : Batch}
    (found : (c.look m l).1.batches.get? key = some batch') :
    ∃ batch, c.batches.get? key = some batch ∧ SameFiles batch batch' := by
  have stretch := look_stretch c m l
  generalize c.look m l = went at stretch found
  cases stretch with
  | ends batches => exact ⟨batch', batches ▸ found, rfl, rfl⟩
  | waits registered => exact ⟨batch', found, rfl, rfl⟩
  | @refreshes batch registered unmoved free =>
    cases served : c.issuerFor batch with
    | some issuer =>
      simp only [refreshBatch_served served, get?_takeLease] at found
      split at found
      · obtain ⟨before, registered, rfl⟩ := Option.map_eq_some_iff.mp found
        exact ⟨before, registered, rfl, rfl⟩
      · exact ⟨batch', found, rfl, rfl⟩
    | none =>
      obtain ⟨after, result, fault, refused, -, batches, -⟩ :=
        refreshBatch_unserved (m := m) registered served
      rw [refused, batches] at found
      split at found
      · rename_i mine
        cases found
        exact ⟨batch, mine ▸ registered, rfl, rfl⟩
      · exact ⟨batch', found, rfl, rfl⟩

/-- Nothing but registering changes which files a batch has. -/
theorem step_fileIds {t : Traffic} {e : Event} {batch' : Batch}
    (unregistered : ∀ table ids links refresher, e.call ≠ .register tableKey table ids links refresher)
    (found : (t.step e).cache.batches.get? tableKey = some batch') :
    ∃ batch, t.cache.batches.get? tableKey = some batch ∧ SameFiles batch batch' := by
  obtain ⟨m, call⟩ := e
  cases call with
  | register key table fileIds links refresher =>
    have other : tableKey ≠ key := fun same => unregistered table fileIds links refresher (same ▸ rfl)
    simp only [step, get?_register, other, ↓reduceIte] at found
    exact ⟨batch', found, rfl, rfl⟩
  | release key =>
    simp only [step, get?_release] at found
    split at found
    · obtain ⟨batch, before, rfl⟩ := Option.map_eq_some_iff.mp found
      exact ⟨batch, before, rfl, rfl⟩
    · exact ⟨batch', found, rfl, rfl⟩
  | get key =>
    simp only [step, look_cache] at found
    exact look_fileIds found
  | wake read =>
    simp only [step] at found
    split at found
    · rw [look_cache] at found
      exact look_fileIds found
    · exact ⟨batch', found, rfl, rfl⟩
  | answer read signature =>
    simp only [step] at found
    split at found
    · rename_i call signing
      simp only [answer, (finishRefresh_spec t.cache m call.refresh signature).1] at found
      split at found
      · split at found
        · obtain ⟨batch, before, rfl⟩ := Option.map_eq_some_iff.mp found
          refine ⟨batch, before, ?_⟩
          unfold Batch.settle
          split <;> exact ⟨rfl, rfl⟩
        · exact ⟨batch', found, rfl, rfl⟩
      · exact ⟨batch', found, rfl, rfl⟩
    · exact ⟨batch', found, rfl, rfl⟩
  | sweep =>
    obtain same | ⟨gone, -⟩ := get?_sweep t.cache m tableKey
    · exact ⟨batch', same ▸ found, rfl, rfl⟩
    · exact absurd (gone.symm.trans found) (by simp)
  | shutdown => simp [step, Cache.shutdown] at found

/-- A batch has the different file ids registered since it was created, in order. -/
theorem fileIds_run (settings : CacheSettings) (calls : List Event) {batch : Batch}
    (found : (run settings calls).cache.batches.get? tableKey = some batch) :
    batch.fileIds = Text.distinctSorted (registeredIds settings tableKey calls) := by
  induction calls generalizing batch with
  | nil => simp [run, new] at found
  | cons e earlier ih =>
    by_cases registers : ∃ table ids links refresher, e.call = .register tableKey table ids links refresher
    · obtain ⟨table, ids, links, refresher, call⟩ := registers
      have added : idsFor tableKey e = ids := by simp [idsFor, call]
      simp only [run, step, call, get?_register, ↓reduceIte, Option.some.injEq] at found
      subst found
      cases before : (run settings earlier).cache.batches.get? tableKey with
      | none => simp [Batch.attach, newBatch, registeredIds, before, added]
      | some batch => simp [Batch.attach, registeredIds, before, added, ih before, Text.distinctSorted_append]
    · have silent : idsFor tableKey e = [] := by
        unfold idsFor
        split
        · rename_i key table ids links refresher call
          have other : key ≠ tableKey := fun same =>
            registers ⟨table, ids, links, refresher, same ▸ call⟩
          simp [other]
        · rfl
      obtain ⟨before, kept, -, same⟩ := step_fileIds
        (fun table ids links refresher call => registers ⟨table, ids, links, refresher, call⟩) found
      rw [same, ih kept]
      simp [registeredIds, kept, silent]

/-- As long as a batch is not registered anew it keeps its files. -/
theorem run_files_kept {settings : CacheSettings} {earlier : List Event} {tableKey : String} {batch : Batch}
    (registered : (run settings earlier).cache.batches.get? tableKey = some batch) (later : List Event)
    {batch' : Batch}
    (still : (run settings (later ++ earlier)).cache.batches.get? tableKey = some batch')
    (same : batch'.serial = batch.serial) : ∀ id ∈ batch.fileIds, id ∈ batch'.fileIds := by
  induction later generalizing batch' with
  | nil =>
    cases registered.symm.trans still
    exact fun id listed => listed
  | cons e later ih =>
    by_cases registers : ∃ table ids links refresher, e.call = .register tableKey table ids links refresher
    · obtain ⟨table, ids, links, refresher, call⟩ := registers
      simp only [List.cons_append, run, step, call, get?_register, ↓reduceIte, Option.some.injEq] at still
      subst still
      cases before : (run settings (later ++ earlier)).cache.batches.get? tableKey with
      | none =>
        -- A new batch has a number that the old one cannot have.
        have below := ((ledger_run settings earlier).batches registered).1
        have grown := run_numbers_grow settings later earlier
        simp only [before, Option.getD_none, Batch.attach, newBatch] at same
        omega
      | some old =>
        simp only [before, Option.getD_some, Batch.attach] at same ⊢
        intro id listed
        exact Text.mem_distinctSorted.mpr (List.mem_append_left _ (ih before same id listed))
    · obtain ⟨old, before, serial, files⟩ := step_fileIds
        (fun table ids links refresher call => registers ⟨table, ids, links, refresher, call⟩) still
      rw [files]
      exact ih before (serial.symm.trans same)

/-- A read that waits after a stretch has seen the generation of its batch. -/
theorem look_waits {t : Traffic} {m : Moment} {read : Nat} {l l' : Lookup}
    (known : read < t.reads.length) (waiting : (t.look m read l).Waiting read l') :
    ∃ batch, (t.look m read l).cache.batches.get? l.key.tableKey = some batch ∧
      l.key.fileId ∈ batch.fileIds ∧ l' = { l with seen := l.seen.or (some batch.generation) } := by
  unfold look at waiting ⊢
  have stretch := look_stretch t.cache m l
  generalize t.cache.look m l = went at stretch waiting
  cases stretch with
  | ends => simp [Waiting, known] at waiting
  | waits registered listed =>
    simp only [Waiting, List.getElem?_set_self known] at waiting
    cases waiting
    exact ⟨_, registered, listed, rfl⟩
  | @refreshes batch registered unmoved free =>
    cases served : t.cache.issuerFor batch with
    | some issuer => simp [refreshBatch_served served, Waiting, known] at waiting
    | none =>
      obtain ⟨after, result, fault, refused, -⟩ := refreshBatch_unserved (m := m) registered served
      simp [refused, Waiting, known] at waiting

/-- A read that waits after an event began with it or waited before. -/
theorem step_waiting {t : Traffic} {e : Event} {read : Nat} {l' : Lookup}
    (known : read < t.reads.length) (waiting : (t.step e).Waiting read l') :
    ∃ l, t.Waiting read l ∧ l'.key = l.key ∧ ∀ seen, l.seen = some seen → l'.seen = some seen := by
  obtain same | change | ⟨first, unseen, change⟩ | ⟨down, same⟩ := step_cases t e
  · exact ⟨l', same ▸ waiting, rfl, fun _ seen => seen⟩
  · obtain before | new := change.waiting waiting
    · exact before
    · omega
  · obtain ⟨l, before, kept⟩ | new := change.waiting waiting
    · rw [Waiting, begin, List.getElem?_append_left known] at before
      exact ⟨l, before, kept⟩
    · simp only [begin, List.length_append] at new
      omega
  · rw [same] at waiting
    exact ⟨l', waiting, rfl, fun _ seen => seen⟩

theorem run_reads_grow (settings : CacheSettings) (later earlier : List Event) :
    (run settings earlier).reads.length ≤ (run settings (later ++ earlier)).reads.length :=
  run_keeps (fun t => (run settings earlier).reads.length ≤ t.reads.length) (Nat.le_refl _)
    (fun held change => Nat.le_trans held change.reads_grow) id later

/-- A read that waits after a history has waited through its later part. -/
theorem run_waiting {settings : CacheSettings} {earlier : List Event} {read : Nat}
    (known : read < (run settings earlier).reads.length) (later : List Event) {l' : Lookup}
    (waiting : (run settings (later ++ earlier)).Waiting read l') :
    ∃ l, (run settings earlier).Waiting read l ∧ l'.key = l.key ∧
      ∀ seen, l.seen = some seen → l'.seen = some seen := by
  induction later generalizing l' with
  | nil => exact ⟨l', waiting, rfl, fun _ seen => seen⟩
  | cons e later ih =>
    have grown := run_reads_grow settings later earlier
    obtain ⟨l, before, key, kept⟩ := step_waiting (Nat.lt_of_lt_of_le known grown) waiting
    obtain ⟨first, start, firstKey, firstKept⟩ := ih before
    exact ⟨first, start, key.trans firstKey, fun seen same => kept seen (firstKept seen same)⟩

theorem get_begins (t : Traffic) (m : Moment) (key : EntryKey) :
    t.reads.length < (t.step ⟨m, .get key⟩).reads.length := by
  have known : t.reads.length < (t.begin (t.cache.beginLookup m key)).reads.length := by simp [begin]
  exact Nat.lt_of_lt_of_le known (look_change List.getElem?_concat_length).reads_grow

/-- A read that a `get` began and that still waits remembers how many refreshes
of the batch had ended when it began to wait. -/
theorem get_waiting {settings : CacheSettings} {before later : List Event} {l : Lookup}
    (waiting : (run settings (later ++ ⟨m, .get key⟩ :: before)).Waiting
      (run settings before).reads.length l) :
    ∃ batch, (run settings (⟨m, .get key⟩ :: before)).cache.batches.get? key.tableKey = some batch ∧
      key.fileId ∈ batch.fileIds ∧ l.key = key ∧ l.seen = some batch.generation := by
  obtain ⟨first, start, sameKey, kept⟩ := run_waiting (get_begins _ m key) later waiting
  obtain ⟨batch, registered, listed, rfl⟩ := look_waits (by simp [begin]) start
  exact ⟨batch, registered, listed, sameKey, kept _ rfl⟩

/-- What holds of a sign call that a read is about to make after a history. -/
structure SoleRefresh (settings : CacheSettings) (calls : List Event) (read : Nat) (call : SignCall) :
    Prop where
  /-- Every other refresh of the table key in progress has a lease that has expired. -/
  others_expired : ∀ other call', (run settings calls).Signing other call' →
    call'.refresh.key.tableKey = call.refresh.key.tableKey →
      Seconds.later call'.started settings.lease ≤ call.started
  /-- The read has made no sign call before. -/
  first_call : ∀ call', (read, call') ∉ (run settings calls).signCalls
  /-- All files of the batch are signed: those registered since it was created. -/
  whole_batch : call.refresh.fileIds =
    Text.distinctSorted (registeredIds settings call.refresh.key.tableKey calls)
  /-- If the batch is still the one for which the read began to wait, no
  refresh of it has ended since. -/
  nothing_ended : ∀ later m key before, calls = later ++ ⟨m, .get key⟩ :: before →
    read = (run settings before).reads.length → ∀ batch batch',
    (run settings (⟨m, .get key⟩ :: before)).cache.batches.get? key.tableKey = some batch →
    (run settings calls).cache.batches.get? key.tableKey = some batch' →
    batch'.serial = batch.serial →
      (run settings calls).endingsOf key.tableKey batch.serial =
        (run settings (⟨m, .get key⟩ :: before)).endingsOf key.tableKey batch.serial

/-- Refreshes of a batch are shared: as long as the clock never goes back and
the cache is not shut down, a read lets a service sign only where no other
refresh could have served it, whatever callers do meanwhile. -/
theorem refreshes_are_shared {settings : CacheSettings} {calls : List Event} {e : Event}
    (clock : (e :: calls).Pairwise fun later earlier =>
      earlier.moment.monotonic ≤ later.moment.monotonic)
    (running : ∀ e ∈ calls, e.call ≠ .shutdown) {read : Nat} {call : SignCall}
    (starts : (run settings (e :: calls)).signCalls = (read, call) :: (run settings calls).signCalls) :
    call.started = e.moment.monotonic ∧ SoleRefresh settings calls read call := by
  obtain ⟨l, batch, issuer, asks, registered, unmoved, free, rfl⟩ := step_starts starts
  obtain ⟨past, clock⟩ := List.pairwise_cons.mp clock
  refine ⟨rfl, ?_, ?_, fileIds_run settings calls registered, ?_⟩
  · intro other call' signing same
    have leased := leased_run settings clock running past
    refine Rat.not_lt.mp fun unexpired => leased.busy signing ?_ registered free same
    rwa [leaseEnd, settings_run]
  · intro call' asked
    obtain ⟨known, done⟩ := spent_run settings calls read call' asked
    obtain waiting | new := asks
    · exact done l waiting
    · omega
  · rintro later m key before rfl rfl first batch' registeredFirst registeredNow same
    have grown := run_reads_grow settings later (⟨m, .get key⟩ :: before)
    obtain waiting | new := asks
    · obtain ⟨begun, registeredBegun, -, rfl, seen⟩ := get_waiting waiting
      cases registeredFirst.symm.trans registeredBegun
      cases registered.symm.trans registeredNow
      have now := ((ledger_run settings _).batches registered).2.1
      have start := ((ledger_run settings _).batches registeredFirst).2.1
      obtain ⟨ended, endings⟩ := run_endings_grow settings later (⟨m, .get l.key⟩ :: before)
      rw [← unmoved _ seen, start, same] at now
      simp only [endingsOf, endings, List.filter_append, List.length_append] at now ⊢
      rw [List.eq_nil_of_length_eq_zero (by omega : (ended.filter _).length = 0), List.nil_append]
    · have begun := get_begins (run settings before) m key
      simp only [run] at grown
      omega

/-- A lease of ten seconds is taken over after twenty. -/
theorem expired_lease_is_taken_over :
    let settings : CacheSettings := ⟨some ⟨"service"⟩, 0, 10, 10, 60⟩
    let table : TableReference := ⟨"share", "schema", "orders"⟩
    let file : EntryKey := ⟨"orders", "part-1"⟩
    let calls : List Event :=
      [⟨.still 0 0, .get file⟩, ⟨.still 0 0, .register "orders" table ["part-1"] .empty none⟩]
    let call : SignCall := ⟨⟨"service"⟩, ⟨file, 0, 2, table, ["part-1"]⟩, 20⟩
    (run settings (⟨.still 0 20, .get file⟩ :: calls)).signCalls =
        (1, call) :: (run settings calls).signCalls ∧
      SoleRefresh settings calls 1 call := by
  intro settings table file calls call
  have starts : (run settings (⟨.still 0 20, .get file⟩ :: calls)).signCalls =
      (1, call) :: (run settings calls).signCalls := by decide +kernel
  exact ⟨starts, (refreshes_are_shared (by decide +kernel) (by simp [calls]) starts).2⟩

end SharedTables.Cache.Traffic
