import SharedTables.Proofs.Cache.Leftovers
import SharedTables.Proofs.Cache.Statistics
import SharedTables.Proofs.Cache.Takeover

/-! What a refresh that fails leaves behind. Its batch notes the failure and
gets its lease back, and nothing else changes. So the next read may try again:
as long as the clock of expirations can be read, every lease belongs to a refresh
in progress. -/
namespace SharedTables.Cache

variable {c : Cache} {m : Moment} {l : Lookup} {batch : Batch} {key tableKey : String} {serial : Nat}
  {lease : Lease} {issuer : Issuer}

/-- Whether a refresh is of the batch of a key with a serial. -/
def Refresh.IsOf (r : Refresh) (tableKey : String) (serial : Nat) : Prop :=
  r.key.tableKey = tableKey ∧ r.serial = serial

/-- Whether a stretch of a read is to refresh a batch: it finds no fresh link,
has not waited for a refresh that has ended, and no lease is in force. -/
structure Due (c : Cache) (m : Moment) (l : Lookup) (batch : Batch) : Prop where
  registered : c.batches.get? l.key.tableKey = some batch
  listed : l.key.fileId ∈ batch.fileIds
  unfresh : c.freshLink? m l.key = .ok none
  unmoved : ∀ seen ∈ l.seen, seen = batch.generation
  free : ∀ lease ∈ batch.lease, lease.expires ≤ m.monotonic

theorem Due.look (due : Due c m l batch) : c.look m l = c.refreshBatch m l.key batch := by
  have unmoved : l.seen.any (· ≠ batch.generation) = false := by
    cases first : l.seen with
    | none => rfl
    | some seen => simp [due.unmoved seen first]
  have free : batch.lease.filter (Lease.inForce · m.monotonic) = none := by
    rw [Option.filter_eq_none_iff]
    intro lease held
    simpa [Lease.inForce, Rat.not_lt] using due.free lease held
  simp only [Cache.look, due.unfresh, due.registered, lookInBatch, due.listed, not_true_eq_false, ↓reduceIte,
    unmoved, Bool.false_eq_true, free]

/-- A stretch that counts a failed refresh was to refresh a batch for which there is no service. -/
theorem due_of_failure (counted : (c.look m l).1.stats.refreshFailures ≠ c.stats.refreshFailures) :
    ∃ batch, Due c m l batch ∧ c.issuerFor batch = none := by
  unfold Cache.look at counted
  cases unfresh : c.freshLink? m l.key with
  | error fault => simp [unfresh] at counted
  | ok found =>
    cases found with
    | some link => simp [unfresh, countHit] at counted
    | none =>
      cases registered : c.batches.get? l.key.tableKey with
      | none => simp [unfresh, registered] at counted
      | some batch =>
        simp only [unfresh, registered, lookInBatch] at counted
        split at counted
        · exact absurd rfl counted
        · rename_i listed
          split at counted
          · simp only [afterRefresh] at counted
            split at counted <;> exact absurd rfl counted
          · rename_i unmoved
            split at counted
            · exact absurd rfl counted
            · rename_i free
              refine ⟨batch, ⟨registered, Decidable.not_not.mp listed, unfresh, ?_, ?_⟩, ?_⟩
              · intro seen first
                simpa [Option.mem_def.mp first] using unmoved
              · intro lease held
                have expired := Option.filter_eq_none_iff.mp free lease held
                simpa [Lease.inForce, Rat.not_lt] using expired
              · cases served : c.issuerFor batch with
                | none => rfl
                | some issuer =>
                  rw [refreshBatch_served served] at counted
                  exact absurd rfl counted

/-- What is left of a cache in which a refresh has failed. -/
structure OnlyAttempted (failing : Cache) (r : Refresh) (after : Cache) : Prop where
  entries : after.entries = failing.entries
  standing : ∀ key, after.standing key = failing.standing key
  others : ∀ key, key ≠ r.key.tableKey → after.batches.get? key = failing.batches.get? key
  /-- The lease is given back if it is still the refresh's own. -/
  lease : after.leaseOf r.key.tableKey =
    (failing.leaseOf r.key.tableKey).filter fun held => decide (¬ (held.1 = r.serial ∧ held.2.token = r.token))
  stats : after.stats = { failing.stats with refreshFailures := failing.stats.refreshFailures + 1 }

theorem refreshFailed_onlyAttempted (c : Cache) (r : Refresh) (fault : Fault) :
    OnlyAttempted c r (c.refreshFailed r fault).1 where
  entries := rfl
  standing _ := standing_finishRefresh (m := .still 0 0) r (.error fault)
  others _ other := get?_settleBatch.trans (if_neg other)
  lease := (Traffic.leaseOf_ended c (.still 0 0) r (.error fault) r.key.tableKey).trans (if_pos ⟨rfl, rfl⟩)
  stats := rfl

/-- A read whose refresh fails has no credential; it names the fault, or passes it on if it is one. -/
theorem refreshFailed_result (c : Cache) (r : Refresh) (fault : Fault) :
    ∃ e, (c.refreshFailed r fault).2 = .error (.credential e) ∧
      (fault = .credential e ∨ e = .refreshFailed r.key.tableKey fault.message) := by
  cases fault with
  | credential e => exact ⟨e, rfl, Or.inl rfl⟩
  | other name message => exact ⟨_, rfl, Or.inr rfl⟩

namespace Traffic

variable {t : Traffic} {e : Event} {read : Nat} {call : SignCall} {settings : CacheSettings} {calls : List Event}

/-- Whether an event is a stretch of a read that looks at the cache: its first one, or one after a wait. -/
inductive Looks (t : Traffic) : Event → Nat → Lookup → Prop
  | begins (m : Moment) (key : EntryKey) : Looks t ⟨m, .get key⟩ t.reads.length (t.cache.beginLookup m key)
  | wakes (m : Moment) (read : Nat) (l : Lookup) (waiting : t.Waiting read l) : Looks t ⟨m, .wake read⟩ read l

/-- How the refresh of a read fails in an event: with the cache at that moment
and the fault. -/
inductive Fails (t : Traffic) (e : Event) (read : Nat) : Cache → Refresh → Fault → Prop
  /-- The service raises something, of whatever kind, that is not meant to end the program. -/
  | refused (call : SignCall) (fault : Fault) (signing : t.Signing read call)
      (answered : e.call = .answer read (.error fault)) : Fails t e read t.cache call.refresh fault
  /-- There is no service to ask, although the read has taken the lease. -/
  | unserved (l : Lookup) (batch : Batch) (looks : Looks t e read l) (due : Due t.cache e.moment l batch)
      (unserved : t.cache.issuerFor batch = none) :
      Fails t e read (t.cache.takeLease e.moment l.key batch).1 (t.cache.takeLease e.moment l.key batch).2
        (.credential (.noIssuerForBatch l.key.tableKey))

theorem look_signs {refresh : Refresh} (known : read < t.reads.length)
    (went : (t.cache.look m l).2 = .sign issuer refresh) :
    (t.look m read l).Signing read ⟨issuer, refresh, m.monotonic⟩ ∧
      (t.look m read l).signCalls = (read, ⟨issuer, refresh, m.monotonic⟩) :: t.signCalls := by
  unfold Traffic.look
  generalize t.cache.look m l = stretch at went
  obtain ⟨c, progress⟩ := stretch
  cases went
  exact ⟨List.getElem?_set_self known, rfl⟩

/-- The stretch that looks at the cache is the event itself, once a new read has begun. -/
theorem Looks.step (looks : Looks t e read l) : ∃ t' : Traffic, t'.cache = t.cache ∧ t'.signCalls = t.signCalls ∧
    read < t'.reads.length ∧ t.step e = t'.look e.moment read l := by
  cases looks with
  | begins m key => exact ⟨t.begin (t.cache.beginLookup m key), rfl, rfl, by simp [begin], rfl⟩
  | wakes m read l waiting =>
    obtain ⟨known, -⟩ := List.getElem?_eq_some_iff.mp waiting
    exact ⟨t, rfl, rfl, known, by simp only [Traffic.step, waiting]⟩

/-- A failure is the end of its read and of its event. -/
theorem Fails.step {failing : Cache} {r : Refresh} {fault : Fault} (fails : Fails t e read failing r fault) :
    (t.step e).cache = (failing.refreshFailed r fault).1 ∧
      (t.step e).reads[read]? = some (.ended (failing.refreshFailed r fault).2) ∧
      (t.step e).signCalls = t.signCalls := by
  cases fails with
  | refused call fault signing answered =>
    obtain ⟨known, -⟩ := List.getElem?_eq_some_iff.mp signing
    have stepped : t.step e = t.answer e.moment read call.refresh (.error fault) := by
      simp only [Traffic.step, answered, signing]
    rw [stepped]
    exact ⟨rfl, List.getElem?_set_self known, rfl⟩
  | unserved l batch looks due unserved =>
    obtain ⟨t', same, quiet, known, stretch⟩ := looks.step
    have went : t'.cache.look e.moment l = t.cache.refreshBatch e.moment l.key batch := same ▸ due.look
    simp only [refreshBatch, unserved] at went
    obtain ⟨cache, ended, unasked⟩ := look_done known went
    rw [stretch]
    exact ⟨cache, ended, unasked.trans quiet⟩

/-- An event that is no stretch of a read counts no failed refresh. -/
private theorem step_uncounted (silent : t.readOf e = none) :
    (t.step e).cache.stats.refreshFailures = t.cache.stats.refreshFailures := by
  have counting := step_counting t e
  generalize t.step e = t' at counting ⊢
  cases counting with
  | quiet reads counts => exact congrArg Counts.refreshFailures counts
  | begins after added own | goesOn read before after added own => cases silent.symm.trans own

/-- A refresh fails exactly in those events that are counted as a failure. -/
theorem refresh_fails_iff_counted (t : Traffic) (e : Event) :
    (∃ read failing r fault, Fails t e read failing r fault) ↔
      (t.step e).cache.stats.refreshFailures ≠ t.cache.stats.refreshFailures := by
  constructor
  · rintro ⟨read, failing, r, fault, fails⟩
    rw [fails.step.1, (refreshFailed_onlyAttempted failing r fault).stats]
    cases fails <;> exact Nat.succ_ne_self _
  · intro counted
    have looked {read : Nat} {l : Lookup} (looks : Looks t e read l) :
        ∃ read failing r fault, Fails t e read failing r fault := by
      obtain ⟨t', same, -, -, stretch⟩ := looks.step
      rw [stretch, look_cache, same] at counted
      obtain ⟨batch, due, unserved⟩ := due_of_failure counted
      exact ⟨_, _, _, _, .unserved l batch looks due unserved⟩
    obtain ⟨m, call⟩ := e
    cases call with
    | register | release | sweep | shutdown => exact absurd (step_uncounted rfl) counted
    | get key => exact looked (.begins m key)
    | wake read =>
      simp only [Traffic.step] at counted
      split at counted
      · rename_i l waiting
        exact looked (.wakes m read l waiting)
      · exact absurd rfl counted
    | answer read signature =>
      simp only [Traffic.step] at counted
      split at counted
      · rename_i call signing
        obtain ⟨links, rfl, counts⟩ | ⟨⟨fault, rfl⟩, -⟩ := finishRefresh_counts t.cache m call.refresh signature
        · exact absurd (congrArg Counts.refreshFailures counts) counted
        · exact ⟨_, _, _, _, .refused call fault signing rfl⟩
      · exact absurd rfl counted

/-- A lease that is there after an event was there before, or a read has taken it to let a service sign. -/
theorem step_leaseOf (leased : (t.step e).cache.leaseOf key = some (serial, lease)) :
    t.cache.leaseOf key = some (serial, lease) ∨
      ∃ read call, (t.step e).Signing read call ∧ call.refresh.IsOf key serial ∧ call.refresh.token = lease.token := by
  have looked {read : Nat} {l : Lookup} (looks : Looks t e read l) :
      t.cache.leaseOf key = some (serial, lease) ∨ ∃ read call, (t.step e).Signing read call ∧
        call.refresh.IsOf key serial ∧ call.refresh.token = lease.token := by
    obtain ⟨t', same, -, known, stretch⟩ := looks.step
    rw [stretch, look_cache] at leased
    rw [← same, stretch]
    refine (leaseOf_look l leased).imp_right ?_
    rintro ⟨issuer, refresh, went, ofKey, ofSerial, token⟩
    exact ⟨read, _, (look_signs known went).1, ⟨ofKey, ofSerial⟩, token⟩
  obtain ⟨m, call⟩ := e
  cases call with
  | register => exact Or.inl (leaseOf_register.symm.trans leased)
  | release => exact Or.inl (leaseOf_release.symm.trans leased)
  | sweep => exact Or.inl (leaseOf_sweep.symm.trans leased)
  | shutdown => simp [Traffic.step, leaseOf, Cache.shutdown] at leased
  | get key => exact looked (.begins m key)
  | wake read =>
    simp only [Traffic.step] at leased
    split at leased
    · rename_i l waiting
      exact looked (.wakes m read l waiting)
    · exact Or.inl leased
  | answer read signature =>
    simp only [Traffic.step] at leased
    split at leased
    · simp only [Traffic.answer, leaseOf_ended] at leased
      split at leased
      · exact Or.inl (Option.filter_eq_some_iff.mp leased).1
      · exact Or.inl leased
    · exact Or.inl leased

/-- A refresh that is answered leaves no lease of its own behind. -/
theorem answer_leaseOf {signature : Signature} (signing : t.Signing read call) (readable : m.Readable)
    (own : call.refresh.IsOf key serial)
    (leased : (t.step ⟨m, .answer read signature⟩).cache.leaseOf key = some (serial, lease)) :
    call.refresh.token ≠ lease.token := by
  obtain ⟨now, clock⟩ := readable.first
  simp only [Traffic.step, signing] at leased
  obtain ⟨-, others⟩ := leaseOf_finishRefresh call.refresh signature clock leased
  exact fun token => others ⟨own.1, own.2, token⟩

/-- A service signs for a read until it answers that read. -/
theorem step_keeps_signing (signing : t.Signing read call) :
    (t.step e).Signing read call ∨ ∃ signature, e.call = .answer read signature := by
  obtain ⟨known, -⟩ := List.getElem?_eq_some_iff.mp signing
  have counting := step_counting t e
  generalize stepped : t.step e = t' at counting ⊢
  cases counting with
  | quiet reads => exact Or.inl (by rwa [Signing, reads])
  | begins after added own reads => exact Or.inl (by rwa [Signing, reads, List.getElem?_append_left known])
  | goesOn other before after added own was reads =>
    by_cases mine : other = read
    · subst mine
      obtain ⟨m, act⟩ := e
      cases act with
      | answer other signature =>
        cases own
        exact Or.inr ⟨signature, rfl⟩
      | wake other =>
        cases own
        simp only [Traffic.step, signing] at stepped
        exact Or.inl (stepped ▸ signing)
      | get key =>
        cases own
        exact absurd known (Nat.lt_irrefl _)
      | register | release | sweep | shutdown => cases own
    · exact Or.inl (by rwa [Signing, reads, List.getElem?_set_ne mine])

/-- Whatever callers do, a lease belongs to a refresh in progress, as each refresh
that ends gives its own one back. -/
theorem lease_has_owner (settings : CacheSettings) {calls : List Event} (readable : ∀ e ∈ calls, e.Readable)
    (leased : (run settings calls).cache.leaseOf key = some (serial, lease)) :
    ∃ read call, (run settings calls).Signing read call ∧ call.refresh.IsOf key serial ∧
      call.refresh.token = lease.token := by
  induction calls with
  | nil => cases leased
  | cons e earlier ih =>
    obtain ⟨last, before⟩ := List.forall_mem_cons.mp readable
    obtain held | taken := step_leaseOf leased
    · obtain ⟨read, call, signing, own, token⟩ := ih before held
      obtain still | ⟨signature, answered⟩ := step_keeps_signing signing (e := e)
      · exact ⟨read, call, still, own, token⟩
      · -- The refresh would have ended with this answer and given its lease back.
        obtain ⟨m, act⟩ := e
        cases answered
        exact absurd token (answer_leaseOf signing last own leased)
    · exact taken

/-- A service that signs for a read is not asked again by that read. -/
theorem Change.callsOf_signing {t' : Traffic} (change : Change t m t') (spent : Spent t)
    (asked : (read, call) ∈ t.signCalls) : t'.callsOf read = t.callsOf read := by
  cases change with
  | signs other l batch issuer call' waiting =>
    have differ : other ≠ read := fun same => (spent read call asked).2 l (same ▸ waiting)
    simp [callsOf, differ]
  | _ => rfl

/-- The sign calls of a read are the one that it has made, and no other follows. -/
theorem run_callsOf {before : List Event} (fresh : read = (run settings calls).reads.length)
    (starts : (run settings before).signCalls = (read, call) :: (run settings calls).signCalls) (later : List Event) :
    (run settings (later ++ before)).callsOf read = [(read, call)] := by
  have first : (run settings before).callsOf read = [(read, call)] := by
    have unasked : (run settings calls).callsOf read = [] := fresh ▸ callsOf_next settings calls
    simpa [callsOf, starts] using unasked
  have start := And.intro (spent_run settings before) first
  refine (run_keeps (fun t => Spent t ∧ t.callsOf read = [(read, call)]) start (fun held change => ?_) id later).2
  have asked : (read, call) ∈ Traffic.callsOf _ read := held.2 ▸ List.mem_singleton_self _
  exact ⟨held.1.changed change, (change.callsOf_signing held.1 (List.mem_of_mem_filter asked)).trans held.2⟩

/-- A read is to refresh a batch at once if no refresh of the batch is in progress. -/
theorem get_is_due {entry : EntryKey} (readable : ∀ e ∈ calls, e.Readable)
    (registered : (run settings calls).cache.batches.get? entry.tableKey = some batch)
    (listed : entry.fileId ∈ batch.fileIds) (unfresh : (run settings calls).cache.freshLink? m entry = .ok none)
    (idle : ∀ read call, (run settings calls).Signing read call → ¬ call.refresh.IsOf entry.tableKey batch.serial) :
    Due (run settings calls).cache m ((run settings calls).cache.beginLookup m entry) batch where
  registered := registered
  listed := listed
  unfresh := unfresh
  unmoved _ first := nomatch first
  free lease held := by
    have leased : (run settings calls).cache.leaseOf entry.tableKey = some (batch.serial, lease) := by
      simp [leaseOf, registered, Option.mem_def.mp held]
    obtain ⟨read, call, signing, own, -⟩ := lease_has_owner settings readable leased
    exact absurd own (idle read call signing)

/-- A refresh that fails costs nothing but the attempt. Its read is told so, the
lease is given back if it is still its own, and no link and no other field of any
batch changes. After any history with a readable clock the next read that needs a
refresh makes exactly one sign call, as long as no refresh of its batch is in
progress. -/
theorem failed_refresh_costs_only_the_attempt (settings : CacheSettings) (calls : List Event)
    (readable : ∀ e ∈ calls, e.Readable) :
    (∀ e read failing r fault, Fails (run settings calls) e read failing r fault →
      OnlyAttempted failing r (run settings (e :: calls)).cache ∧
      ∃ error, EndsWith settings calls e read (.error (.credential error)) ∧
        (fault = .credential error ∨ error = .refreshFailed r.key.tableKey fault.message)) ∧
    ∀ m key batch issuer, (run settings calls).cache.batches.get? key.tableKey = some batch →
      key.fileId ∈ batch.fileIds → (run settings calls).cache.freshLink? m key = .ok none →
      (run settings calls).cache.issuerFor batch = some issuer →
      (∀ read call, (run settings calls).Signing read call → ¬ call.refresh.IsOf key.tableKey batch.serial) →
      let e : Event := ⟨m, .get key⟩
      let read := (run settings calls).reads.length
      let call : SignCall := ⟨issuer, ((run settings calls).cache.takeLease m key batch).2, m.monotonic⟩
      (run settings (e :: calls)).Signing read call ∧
        ∀ later, (run settings (later ++ e :: calls)).callsOf read = [(read, call)] := by
  refine ⟨fun e read failing r fault fails => ?_, ?_⟩
  · obtain ⟨cache, ended, quiet⟩ := fails.step
    obtain ⟨error, result, named⟩ := refreshFailed_result failing r fault
    rw [run, cache]
    exact ⟨refreshFailed_onlyAttempted failing r fault, error, .of_step (result ▸ ended) quiet, named⟩
  · intro m key batch issuer registered listed unfresh served idle e read call
    have due := get_is_due readable registered listed unfresh idle
    have went : ((run settings calls).cache.look m ((run settings calls).cache.beginLookup m key)).2 =
        .sign issuer call.refresh := by
      rw [due.look, refreshBatch_served served]
      rfl
    have known : read < ((run settings calls).begin ((run settings calls).cache.beginLookup m key)).reads.length := by
      simp [begin, read]
    have begun := look_signs known went
    exact ⟨begun.1, run_callsOf rfl begun.2⟩

/-- The service raises something, and the read after that asks it again, once. -/
theorem service_is_asked_again :
    let settings : CacheSettings := ⟨some ⟨"service"⟩, 0, 100, 10, 60⟩
    let table : TableReference := ⟨"share", "schema", "orders"⟩
    let file : EntryKey := ⟨"orders", "part-1"⟩
    let asked : List Event :=
      [⟨.still 0 0, .get file⟩, ⟨.still 0 0, .register "orders" table ["part-1"] .empty none⟩]
    let failure : Event := ⟨.still 0 1, .answer 0 (.error (.other "RuntimeError" "down"))⟩
    EndsWith settings asked failure 0 (.error (.credential (.refreshFailed "orders" "down"))) ∧
      (run settings (failure :: asked)).cache.leaseOf "orders" = none ∧
      ∀ later, (run settings (later ++ ⟨.still 0 2, .get file⟩ :: failure :: asked)).callsOf 1 =
        [(1, ⟨⟨"service"⟩, ⟨file, 0, 2, table, ["part-1"]⟩, 2⟩)] := by
  intro settings table file asked failure
  have readable (monotonic : Seconds) (call : Call) : Event.Readable ⟨.still 0 monotonic, call⟩ := .still 0 monotonic
  have history : ∀ e ∈ asked, e.Readable :=
    List.forall_mem_cons.mpr ⟨readable 0 _, List.forall_mem_singleton.mpr (readable 0 _)⟩
  have signing : (run settings asked).Signing 0 ⟨⟨"service"⟩, ⟨file, 0, 1, table, ["part-1"]⟩, 0⟩ := by decide +kernel
  obtain ⟨only, error, ends, named⟩ :=
    (failed_refresh_costs_only_the_attempt settings asked history).1 failure 0 _ _ _ (.refused _ _ signing rfl)
  obtain rfl := named.resolve_left nofun
  have back : (run settings (failure :: asked)).cache.leaseOf "orders" = none := only.lease.trans (by decide +kernel)
  have registered : (run settings (failure :: asked)).cache.batches.get? "orders" =
      some ⟨0, table, ["part-1"], none, 1, none, 1, some (.other "RuntimeError" "down")⟩ := by decide +kernel
  have ended : (run settings (failure :: asked)).reads =
      [.ended (.error (.credential (.refreshFailed "orders" "down")))] := by decide +kernel
  have token : ((run settings (failure :: asked)).cache.takeLease (.still 0 2) file
      ⟨0, table, ["part-1"], none, 1, none, 1, some (.other "RuntimeError" "down")⟩).2 =
        ⟨file, 0, 2, table, ["part-1"]⟩ := by decide +kernel
  have idle (read : Nat) (call : SignCall) (signing : (run settings (failure :: asked)).Signing read call) :
      ¬ call.refresh.IsOf "orders" 0 := by
    have member := List.mem_of_getElem? signing
    rw [ended] at member
    cases List.mem_singleton.mp member
  have again := ((failed_refresh_costs_only_the_attempt settings (failure :: asked)
    (List.forall_mem_cons.mpr ⟨readable 1 _, history⟩)).2 (.still 0 2) file _ ⟨"service"⟩
    registered (by decide) (by decide +kernel) (by decide +kernel) idle).2
  rw [token, ended] at again
  exact ⟨ends, back, again⟩

end Traffic
end SharedTables.Cache
