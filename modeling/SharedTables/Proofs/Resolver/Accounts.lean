import SharedTables.Proofs.Resolver.Stretches

/-! Resolvers and the cache keep the same accounts. A batch counts as many
holders as there are records of its key in the resolvers, because each stretch
that changes one side changes the other. Only a clock that fails between the two
can leave a holder without a record or a lease without a refresh. -/
namespace SharedTables.Session

/-- How often a key is on record in the resolvers; a closed one has no records. -/
def holds (s : Session) (key : String) : Nat := (s.resolvers.flatMap (·.registered)).count key

/-- Whether a service signs for a refresh of the batch of a key. -/
def Refreshing (s : Session) (key : String) : Prop :=
  ∃ call resolver issuer refresh,
    s.calls.get? call = some ⟨resolver, .read (.cached (.sign issuer refresh))⟩ ∧ refresh.key.tableKey = key

/-- Whether the clock of expirations can be read at an event. -/
def Event.Readable (e : Event) : Prop := e.moment.Readable

/-- The holders of every batch are the records of its key, and the lost ones. -/
def Balanced (s : Session) (lost : String → Nat) : Prop :=
  ∀ key, s.cache.holders key = s.holds key + lost key

/-- Whether every lease is held by a read for which a service signs. -/
def Leased (s : Session) : Prop :=
  ∀ key serial lease, s.cache.leaseOf key = some (serial, lease) →
    ∃ call resolver issuer refresh, s.calls.get? call = some ⟨resolver, .read (.cached (.sign issuer refresh))⟩ ∧
      refresh.key.tableKey = key ∧ refresh.serial = serial ∧ refresh.token = lease.token

/-- Replacing a resolver replaces its records. -/
theorem count_set {resolvers : List Resolver} {i : Nat} {r : Resolver} (known : resolvers[i]? = some r)
    (r' : Resolver) (key : String) :
    ((resolvers.set i r').flatMap (·.registered)).count key + r.registered.count key =
      (resolvers.flatMap (·.registered)).count key + r'.registered.count key := by
  induction resolvers generalizing i with
  | nil => simp at known
  | cons first rest ih =>
    cases i with
    | zero =>
      obtain rfl : first = r := by simpa using known
      simp only [List.set_cons_zero, List.flatMap_cons, List.count_append]
      omega
    | succ i =>
      have others := ih (i := i) (by simpa using known)
      simp only [List.set_cons_succ, List.flatMap_cons, List.count_append]
      omega

theorem holds_set {s : Session} {i : Nat} {r r' : Resolver} (known : s.resolvers[i]? = some r)
    (same : r'.registered = r.registered) (key : String) :
    ((s.resolvers.set i r').flatMap (·.registered)).count key = s.holds key := by
  have counted := count_set known r' key
  rw [same] at counted
  exact Nat.add_right_cancel counted

theorem Balanced.unmoved (balanced : Balanced s lost) (holders : ∀ key, s'.cache.holders key = s.cache.holders key)
    (records : ∀ key, s'.holds key = s.holds key) : Balanced s' lost := by
  intro key
  rw [holders, records]
  exact balanced key

/-- A change keeps the balance. Nothing is lost while the clock can be read. -/
theorem Balanced.changed (balanced : Balanced s lost) (change : Change s e s') :
    ∃ lost', Balanced s' lost' ∧ (e.Readable → lost' = lost) := by
  cases change with
  | enters settings location mark issuer =>
    have unrecorded : (Resolver.new settings location mark issuer).registered = [] := rfl
    refine ⟨lost, balanced.unmoved (fun _ => rfl) fun key => ?_, fun _ => rfl⟩
    rw [holds, List.flatMap_append, List.flatMap_singleton, unrecorded, List.append_nil, holds]
  | plans i r r' known alike =>
    exact ⟨lost, balanced.unmoved (fun _ => rfl) (holds_set known alike.registered), fun _ => rfl⟩
  | sweeps =>
    exact ⟨lost, balanced.unmoved (fun _ => Cache.holders_sweep) (fun _ => rfl), fun _ => rfl⟩
  | closes i r known asked =>
    refine ⟨lost, fun key => ?_, fun _ => rfl⟩
    have released := count_set known { r with registered := [] } key
    have before := balanced key
    rw [(Cache.releases_keep r.registered s.cache).1, holds]
    simp only [holds, List.count_nil] at released before ⊢
    omega
  | goes call i r stage reply went known before asked stretch =>
    cases stretch with
    | scans r' progress alike =>
      exact ⟨lost, balanced.unmoved (fun _ => rfl) (holds_set known alike.registered), fun _ => rfl⟩
    | registers r' tableKey table fileIds links refresher outcome alike =>
      refine ⟨lost, fun key => ?_, fun _ => rfl⟩
      have recorded := count_set known (r'.rememberBatch tableKey) key
      have grown : (r'.rememberBatch tableKey).registered.count key =
          r.registered.count key + if key = tableKey then 1 else 0 := by
        simp only [Resolver.rememberBatch, alike.registered, List.count_append, List.count_singleton, beq_iff_eq,
          @eq_comm _ tableKey key]
      have before := balanced key
      rw [grown] at recorded
      simp only [holds, record, Option.getD_some, Cache.holders_register] at before ⊢
      omega
    | breaks r' tableKey table fileIds links refresher fault alike unread m' reading clock =>
      refine ⟨fun key => lost key + if key = tableKey then 1 else 0, fun key => ?_, ?_⟩
      · rw [holds, record, holds_set known alike.registered]
        simp only [Option.getD_some, Cache.holders_register, balanced key]
        omega
      · exact fun readable => absurd clock readable.not_fails
    | looks l awaited =>
      refine ⟨lost, balanced.unmoved (fun key => ?_) (holds_set known rfl), fun _ => rfl⟩
      simp only [record, Option.getD_some, Cache.holders, Cache.roll_look]
    | refreshed issuer refresh answer signed =>
      refine ⟨lost, balanced.unmoved (fun key => ?_) (holds_set known rfl), fun _ => rfl⟩
      simp only [record, Option.getD_some, Cache.holders, Cache.roll_finishRefresh]
    | bypasses =>
      exact ⟨lost, balanced.unmoved (fun _ => rfl) (holds_set known rfl), fun _ => rfl⟩

/-- The records of a history, and what failing clocks have lost. -/
theorem balanced_run (settings : CacheSettings) (events : List Event) :
    ∃ lost, Balanced (run settings events) lost ∧ ((∀ e ∈ events, e.Readable) → lost = fun _ => 0) := by
  induction events with
  | nil => exact ⟨fun _ => 0, fun key => rfl, fun _ => rfl⟩
  | cons e earlier ih =>
    obtain ⟨lost, balanced, unlost⟩ := ih
    have readable (clocks : ∀ e' ∈ e :: earlier, e'.Readable) : lost = fun _ => 0 :=
      unlost fun e' member => clocks e' (List.mem_cons_of_mem e member)
    obtain same | change := step_cases (run settings earlier) e
    · exact ⟨lost, by rwa [run, same], readable⟩
    · obtain ⟨lost', balanced', kept⟩ := balanced.changed change
      exact ⟨lost', balanced', fun clocks => (kept (clocks e List.mem_cons_self)).trans (readable clocks)⟩

/-- As long as the clock can be read, no lease is left behind. -/
theorem Leased.changed (leased : Leased s) (readable : e.Readable) (change : Change s e s') : Leased s' := by
  intro key serial lease held
  cases change with
  | enters | plans => exact leased key serial lease held
  | sweeps =>
    rw [Cache.leaseOf_sweep] at held
    exact leased key serial lease held
  | closes i r known asked =>
    rw [(Cache.releases_keep r.registered s.cache).2.2] at held
    exact leased key serial lease held
  | goes call i r stage reply went known before asked stretch =>
    -- A refresh goes on unless this stretch belongs to its call.
    have survives (old : s.cache.leaseOf key = some (serial, lease))
        (others : ∀ issuer refresh, stage = some (.read (.cached (.sign issuer refresh))) →
          ¬ (refresh.key.tableKey = key ∧ refresh.serial = serial ∧ refresh.token = lease.token)) :
        ∃ call' resolver issuer refresh, (s.record call i went).calls.get? call' =
            some ⟨resolver, .read (.cached (.sign issuer refresh))⟩ ∧
          refresh.key.tableKey = key ∧ refresh.serial = serial ∧ refresh.token = lease.token := by
      obtain ⟨call', resolver, issuer, refresh, signing, own⟩ := leased key serial lease old
      have differ : call' ≠ call := by
        rintro rfl
        obtain ⟨stage', reached, same⟩ := Option.map_eq_some_iff.mp (before.symm.trans signing)
        cases same
        exact others issuer refresh reached own
      exact ⟨call', resolver, issuer, refresh, by simp [record_calls, differ, signing], own⟩
    cases stretch with
    | scans r' progress alike unread =>
      exact survives held fun issuer refresh reached => absurd reached (unread _)
    | registers r' tableKey table fileIds links refresher outcome alike unread
    | breaks r' tableKey table fileIds links refresher fault alike unread =>
      rw [record, Option.getD_some, Cache.leaseOf_register] at held
      exact survives held fun issuer refresh reached => absurd reached (unread _)
    | bypasses stage' uncached =>
      exact survives held fun issuer refresh reached => absurd reached (uncached _)
    | looks l awaited =>
      obtain old | ⟨issuer, refresh, signing, own⟩ := Cache.leaseOf_look l held
      · refine survives old fun issuer refresh reached => ?_
        obtain new | ⟨limit, waited⟩ := awaited <;> simp_all
      · exact ⟨call, i, issuer, refresh, by simp [record_calls, signing], own⟩
    | refreshed issuer refresh answer signed =>
      obtain ⟨now, clock⟩ := readable.first
      obtain ⟨old, others⟩ := Cache.leaseOf_finishRefresh refresh answer clock held
      refine survives old fun issuer' refresh' reached => ?_
      obtain ⟨rfl, rfl⟩ : issuer = issuer' ∧ refresh = refresh' := by simpa [signed] using reached
      exact others

theorem leased_run (settings : CacheSettings) {events : List Event} (readable : ∀ e ∈ events, e.Readable) :
    Leased (run settings events) := by
  refine run_holds Leased ?_ fun member leased change => leased.changed (readable _ member) change
  intro key serial lease held
  simp [run] at held

/-- A key that is on record has a batch, and no sweep drops it. While the clock
can be read, each batch counts exactly the records of its key; once there are
none, no refresh is in progress and all links have expired, the next sweep drops
the batch with its links. -/
theorem holders_are_on_record (settings : CacheSettings) (events : List Event) (key : String) :
    let s := run settings events
    (0 < s.holds key → ∃ batch, s.cache.batches.get? key = some batch ∧ s.holds key ≤ batch.holders ∧
      ∀ m, (s.cache.sweep m).1.batches.get? key = some batch) ∧
    ((∀ e ∈ events, e.Readable) → ∀ batch, s.cache.batches.get? key = some batch →
      batch.holders = s.holds key ∧
      ∀ m now, m.epoch = .ok now → s.holds key = 0 → ¬ s.Refreshing key →
        (∀ fileId link, s.cache.entries.get? ⟨key, fileId⟩ = some link → link.expiration ≤ now) →
        (s.cache.sweep m).1.batches.get? key = none ∧
          ∀ fileId, (s.cache.sweep m).1.entries.get? ⟨key, fileId⟩ = none) := by
  intro s
  obtain ⟨lost, balanced, unlost⟩ := balanced_run settings events
  have account : s.cache.holders key = s.holds key + lost key := balanced key
  refine ⟨fun held => ?_, fun readable batch found => ?_⟩
  · have holders : 0 < s.cache.holders key := by omega
    obtain ⟨batch, found, counted⟩ := Cache.get?_of_held holders
    exact ⟨batch, found, by omega, fun m => (Cache.get?_sweep_held holders).trans found⟩
  · have exact_count : s.cache.holders key = s.holds key := by simpa [unlost readable] using account
    refine ⟨(Cache.holders_eq found).symm.trans exact_count, fun m now clock unheld idle expired => ?_⟩
    have unleased : s.cache.leaseOf key = none := by
      rw [Option.eq_none_iff_forall_ne_some]
      rintro ⟨serial, lease⟩ held
      obtain ⟨call, resolver, issuer, refresh, signing, own, -⟩ := leased_run settings readable key serial lease held
      exact idle ⟨call, resolver, issuer, refresh, signing, own⟩
    exact Cache.sweep_drops clock (exact_count.trans unheld) unleased found expired

/-- Two resolvers hold one batch. After both have been closed, it goes in the
next sweep. -/
theorem shared_batch_goes_after_both_are_closed :
    let settings : CacheSettings := ⟨none, 0, 10, 10, 60⟩
    let lazy : ResolverSettings := ⟨⟨true, false⟩, true, true, .exact, .lazy, "share"⟩
    let table : TableReference := ⟨"share", "schema", "orders"⟩
    let file : FileAction := ⟨"part-1", "", none, .empty, none, none, none, none⟩
    let key := locationWithFingerprint "orders" (Fingerprint.ofRange 0 none)
    let opening : List Action := [.scanBatch 1 1 table [file] 0 none, .scanBatch 0 0 table [file] 0 none,
      .enter lazy "orders" "" none, .enter lazy "orders" "" none]
    let session (actions : List Action) := run settings (actions.map (⟨.still 0 0, ·⟩))
    (∃ batch, (session opening).cache.batches.get? key = some batch ∧ batch.holders = 2) ∧
      (session (.sweep :: .close 0 :: .close 1 :: opening)).cache.batches.get? key = none := by
  intro settings lazy table file key opening session
  have readable (actions : List Action) : ∀ e ∈ actions.map (⟨.still 0 0, ·⟩), Event.Readable e := by
    intro e member
    obtain ⟨action, -, rfl⟩ := List.mem_map.mp member
    exact .still 0 0
  have records : (session opening).holds key = 2 := by decide +kernel
  obtain ⟨batch, found, -⟩ := (holders_are_on_record settings _ key).1 (Nat.lt_of_lt_of_eq Nat.two_pos records.symm)
  have counted := ((holders_are_on_record settings _ key).2 (readable opening) batch found).1
  refine ⟨⟨batch, found, counted.trans records⟩, ?_⟩
  let closed := session (.close 0 :: .close 1 :: opening)
  have left : (closed.cache.batches.get? key).isSome = true := by decide +kernel
  obtain ⟨batch', found'⟩ := Option.isSome_iff_exists.mp left
  have unheld : closed.holds key = 0 := by decide +kernel
  have idle : ¬ closed.Refreshing key := by
    obtain ⟨first, second, calls⟩ : ∃ first second,
        closed.calls.entries = [(0, ⟨0, .scan first⟩), (1, ⟨1, .scan second⟩)] := ⟨_, _, rfl⟩
    rintro ⟨call, resolver, issuer, refresh, signing, -⟩
    have member := OrderedMap.get?_eq_some_iff.mp signing
    simp [calls] at member
  have unlinked : ∀ fileId link, closed.cache.entries.get? ⟨key, fileId⟩ = some link → link.expiration ≤ 0 := by
    have empty : closed.cache.entries.entries = [] := by decide +kernel
    intro fileId link found
    have member := OrderedMap.get?_eq_some_iff.mp found
    rw [empty] at member
    cases member
  have swept := ((holders_are_on_record settings _ key).2 (readable _) batch' found').2
    (.still 0 0) 0 rfl unheld idle unlinked
  exact swept.1

end SharedTables.Session
