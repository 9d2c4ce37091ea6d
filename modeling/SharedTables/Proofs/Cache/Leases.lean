import SharedTables.Proofs.Cache.Ledger

/-! Who holds the lease of a batch. A read whose service signs holds it until
the lease expires: nobody clears it but the read itself, and another read takes
it over only after it has expired. -/
namespace SharedTables.Cache.Traffic

/-- When the lease that was taken for a sign call expires. -/
def leaseEnd (t : Traffic) (call : SignCall) : Seconds :=
  Seconds.later call.started t.cache.settings.lease

/-- No two reads that are signing have one token. -/
def DistinctTokens (t : Traffic) : Prop :=
  ∀ read other call call', t.Signing read call → t.Signing other call' →
    call.refresh.token = call'.refresh.token → read = other

/-- Every lease of a signing read that has not expired is in force in its batch. -/
def Leased (t : Traffic) (now : Seconds) : Prop :=
  ∀ read call, t.Signing read call → now < t.leaseEnd call →
    ∃ batch, t.cache.batches.get? call.refresh.key.tableKey = some batch ∧
      batch.serial = call.refresh.serial ∧ batch.lease = some ⟨call.refresh.token, t.leaseEnd call⟩

/-- Only a new sign call makes a read sign, and its token is new. -/
theorem Change.signing (change : Change t m t') {read : Nat} {call : SignCall}
    (signing : t'.Signing read call) : t.Signing read call ∨
      t'.signCalls = (read, call) :: t.signCalls ∧ call.refresh.token = t.cache.nextNumber := by
  cases change with
  | registers | releases | sweeps => exact Or.inl signing
  | begins l unseen => exact Or.inl (Signing.of_begin signing)
  | ends | waits | unserved => exact Or.inl (Signing.of_set_quiet (by simp) signing)
  | signs read' l batch issuer call' waiting registered unmoved free started =>
    obtain ⟨rfl, new⟩ | old := Signing.of_set signing
    · cases new
      subst started
      exact Or.inr ⟨rfl, rfl⟩
    · exact Or.inl old
  | answers => exact Or.inl (Signing.of_set_quiet (by simp) signing)

/-- A service that signs after an event signed before it, or is asked at the event. -/
theorem Signing.of_step {t : Traffic} {e : Event} {read : Nat} {call : SignCall}
    (signing : (t.step e).Signing read call) :
    t.Signing read call ∨ (t.step e).signCalls = (read, call) :: t.signCalls := by
  obtain same | change | ⟨l, unseen, change⟩ | ⟨down, same⟩ := step_cases t e
  · exact Or.inl (same ▸ signing)
  · exact (change.signing signing).imp_right And.left
  · exact (change.signing signing).imp Signing.of_begin And.left
  · rw [same] at signing
    exact Or.inl signing

theorem DistinctTokens.changed (distinct : DistinctTokens t) (ledger : Ledger t)
    (change : Change t m t') : DistinctTokens t' := by
  intro read other call call' signing signing' same
  obtain old | ⟨new, token⟩ := change.signing signing <;>
    obtain old' | ⟨new', token'⟩ := change.signing signing'
  · exact distinct read other call call' old old' same
  · have below := (ledger.calls old).2
    omega
  · have below := (ledger.calls old').2
    omega
  · exact (Prod.mk.inj (List.cons.inj (new.symm.trans new')).1).1

theorem Change.settings (change : Change t m t') : t'.cache.settings = t.cache.settings := by
  cases change with
  | registers => exact register_settings
  | releases | begins | waits | signs => rfl
  | sweeps => exact (sweep_keeps t.cache _).1
  | ends _ _ _ _ _ _ settings | unserved _ _ _ _ _ _ _ _ _ _ settings => exact settings
  | answers read call signature => exact (finishRefresh_spec t.cache m call.refresh signature).2.1

/-- A batch whose lease has not expired is not free to be refreshed. -/
theorem Leased.busy {m : Moment} {read : Nat} (leased : Leased t m.monotonic)
    (signing : t.Signing read call) (unexpired : m.monotonic < t.leaseEnd call)
    (registered : t.cache.batches.get? key = some batch)
    (free : ∀ lease ∈ batch.lease, lease.expires ≤ m.monotonic) : call.refresh.key.tableKey ≠ key := by
  intro same
  obtain ⟨held, found, -, lease⟩ := leased _ _ signing unexpired
  rw [same, registered] at found
  cases found
  have expired := free _ lease
  exact absurd unexpired (Rat.not_lt.mpr expired)

theorem Leased.changed (leased : Leased t m.monotonic) (distinct : DistinctTokens t)
    (change : Change t m t') : Leased t' m.monotonic := by
  have ends (call : SignCall) : t'.leaseEnd call = t.leaseEnd call := by
    rw [leaseEnd, change.settings, leaseEnd]
  intro read call signing unexpired
  rw [ends] at unexpired ⊢
  cases change with
  | registers tableKey table fileIds links refresher =>
    obtain ⟨batch, found, serial, lease⟩ := leased read call signing unexpired
    by_cases same : call.refresh.key.tableKey = tableKey
    · rw [same] at found
      exact ⟨Batch.attach batch fileIds refresher, by simp [get?_register, same, found], serial, lease⟩
    · exact ⟨batch, by simpa only [get?_register, same, ↓reduceIte] using found, serial, lease⟩
  | releases tableKey =>
    obtain ⟨batch, found, serial, lease⟩ := leased read call signing unexpired
    by_cases same : call.refresh.key.tableKey = tableKey
    · rw [same] at found
      exact ⟨{ batch with holders := batch.holders - 1 }, by simp [get?_release, same, found], serial, lease⟩
    · exact ⟨batch, by simpa only [get?_release, same, ↓reduceIte] using found, serial, lease⟩
  | sweeps =>
    obtain ⟨batch, found, serial, lease⟩ := leased read call signing unexpired
    obtain same | ⟨-, unleased⟩ := get?_sweep t.cache m call.refresh.key.tableKey
    · exact ⟨batch, same.trans found, serial, lease⟩
    · exact absurd (lease.symm.trans (unleased batch found)) (by simp)
  | begins l unseen => exact leased read call (Signing.of_begin signing) unexpired
  | ends read' l c result waiting batches =>
    obtain ⟨batch, found, kept⟩ := leased read call (Signing.of_set_quiet (by simp) signing) unexpired
    exact ⟨batch, batches ▸ found, kept⟩
  | waits => exact leased read call (Signing.of_set_quiet (by simp) signing) unexpired
  | signs read' l batch issuer call' waiting registered unmoved free started =>
    obtain ⟨rfl, new⟩ | old := Signing.of_set signing
    · cases new
      subst started
      let lease : Lease := ⟨t.cache.nextNumber, Seconds.later m.monotonic t.cache.settings.lease⟩
      have own : (t.cache.takeLease m l.key batch).2.key = l.key := rfl
      exact ⟨{ batch with lease := some lease }, by simp [own, registered, lease], rfl, rfl⟩
    · obtain ⟨held, found, kept⟩ := leased read call old unexpired
      have other := leased.busy old unexpired registered free
      exact ⟨held, by simpa only [get?_takeLease, other, ↓reduceIte] using found, kept⟩
  | unserved read' l batch c fault result waiting registered free batches =>
    have old := Signing.of_set_quiet (by simp) signing
    obtain ⟨held, found, kept⟩ := leased read call old unexpired
    have other := leased.busy old unexpired registered free
    exact ⟨held, by simpa only [batches, other, ↓reduceIte] using found, kept⟩
  | answers read' call' signature signing' =>
    have old := Signing.of_set_quiet (by simp) signing
    obtain ⟨held, found, serial, lease⟩ := leased read call old unexpired
    -- The read that is answered signs no longer, so this is another with another token.
    have differ : call.refresh.token ≠ call'.refresh.token := fun same => by
      obtain rfl := distinct read read' call call' old signing' same
      simp [Signing, answer, List.getElem?_set] at signing
    have settled (fault : Option Fault) : (Batch.settle held call'.refresh fault).serial = held.serial ∧
        (Batch.settle held call'.refresh fault).lease = held.lease := by
      unfold Batch.settle
      split
      · exact ⟨rfl, by simp [lease, Option.filter, differ]⟩
      · exact ⟨rfl, rfl⟩
    have spec := (finishRefresh_spec t.cache m call'.refresh signature).1 call.refresh.key.tableKey
    cases outcome : t.cache.outcome? m call'.refresh signature with
    | none =>
      simp only [outcome] at spec
      exact ⟨held, spec.trans found, serial, lease⟩
    | some fault =>
      simp only [outcome, found, Option.map_some] at spec
      split at spec
      · exact ⟨_, spec, (settled fault).1.trans serial, (settled fault).2.trans lease⟩
      · exact ⟨held, spec, serial, lease⟩

theorem distinct_run (settings : CacheSettings) (calls : List Event) :
    DistinctTokens (run settings calls) := by
  refine (run_holds (fun t => Ledger t ∧ DistinctTokens t) ⟨ledger_new settings, ?_⟩
    (fun held change => ⟨held.1.changed change, held.2.changed held.1 change⟩)
    (fun held => ⟨held.1.shutdown, held.2⟩) calls).2
  intro read other call call' signing
  simp [run, Signing] at signing

theorem settings_run (settings : CacheSettings) (calls : List Event) :
    (run settings calls).cache.settings = settings :=
  run_holds (fun t => t.cache.settings = settings) rfl
    (fun held change => change.settings.trans held) id calls

/-- A later look at the clock finds no more leases in force. -/
theorem Leased.later (leased : Leased t earlier) (after : earlier ≤ now) : Leased t now :=
  fun read call signing unexpired => leased read call signing (Std.lt_of_le_of_lt after unexpired)

/-- As long as the clock never goes back and the cache is not shut down, every
lease of a signing read stays in force until it expires. -/
theorem leased_run (settings : CacheSettings) {calls : List Event} {now : Seconds}
    (clock : calls.Pairwise fun later earlier => earlier.moment.monotonic ≤ later.moment.monotonic)
    (running : ∀ e ∈ calls, e.call ≠ .shutdown) (past : ∀ e ∈ calls, e.moment.monotonic ≤ now) :
    Leased (run settings calls) now := by
  induction calls generalizing now with
  | nil =>
    intro read call signing
    simp [run, Signing] at signing
  | cons e earlier ih =>
    obtain ⟨before, clock⟩ := List.pairwise_cons.mp clock
    obtain ⟨up, running⟩ := List.forall_mem_cons.mp running
    have start : Ledger (run settings earlier) ∧ DistinctTokens (run settings earlier) ∧
        Leased (run settings earlier) e.moment.monotonic :=
      ⟨ledger_run settings earlier, distinct_run settings earlier, ih clock running before⟩
    have kept := step_keeps (fun t => Ledger t ∧ DistinctTokens t ∧ Leased t e.moment.monotonic) start
      (fun held change => ⟨held.1.changed change, held.2.1.changed held.1 change,
        held.2.2.changed held.2.1 change⟩) fun down => absurd down up
    exact kept.2.2.later (past e List.mem_cons_self)

end SharedTables.Cache.Traffic
