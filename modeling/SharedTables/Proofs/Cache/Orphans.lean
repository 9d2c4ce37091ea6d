import SharedTables.Proofs.Cache.Holders
import SharedTables.Proofs.Cache.Recency
import SharedTables.Proofs.Cache.Singleflight

/-! Links without a batch. A registered batch is dropped only after all of its
links, so such a link can only come from a refresh whose answer was late: its
batch was gone by then, and the answer is stored nevertheless. Sweeps look for
released batches and never find it. -/
namespace SharedTables.Cache

variable {c : Cache} {m : Moment} {key : EntryKey} {link : Link}

/-- A sweep takes out the expired links of released batches and no others. -/
theorem sweep_takes_iff {now : Int} (clock : m.epoch = .ok now) (held : c.entries.get? key = some link) :
    (c.sweep m).1.entries.get? key = none ↔
      link.expiration ≤ now ∧ ∃ batch, c.batches.get? key.tableKey = some batch ∧ Batch.isReleased batch = true := by
  simp only [sweep, clock, sweepAt, OrderedMap.get?_filter, held, Option.filter_eq_none_iff, isReleasedKey]
  cases c.batches.get? key.tableKey with
  | none => simp
  | some batch => simp [and_comm]

/-- A sweep drops no batch of which it leaves a link. -/
theorem sweep_keeps_batch (held : (c.sweep m).1.entries.get? key = some link)
    (gone : (c.sweep m).1.batches.get? key.tableKey = none) : c.batches.get? key.tableKey = none := by
  unfold sweep at held gone
  cases clock : m.epoch with
  | error fault =>
    simp only [clock] at gone
    exact gone
  | ok now =>
    simp only [clock, sweepAt] at held gone
    rw [OrderedMap.get?_filter, Option.filter_eq_none_iff] at gone
    cases found : c.batches.get? key.tableKey with
    | none => rfl
    | some batch =>
      have left := OrderedMap.mem_keys_iff.mpr ⟨link, held⟩
      have unlinked := gone batch found
      simp only [Bool.or_eq_true, not_or, List.any_eq_true, decide_eq_true_eq, not_exists, not_and] at unlinked
      exact absurd rfl (unlinked.2 key left)

/-- The table key of a batch that is registered at an event. -/
def Event.registers? (e : Event) : Option String :=
  match e.call with
  | .register tableKey .. => some tableKey
  | _ => none

namespace Traffic

variable {t : Traffic} {e : Event}

/-- A service answers a read with a link for a file after the batch has gone. -/
structure LateAnswer (t : Traffic) (e : Event) (read : Nat) (call : SignCall) (key : EntryKey) (link : Link) :
    Prop where
  signing : t.Signing read call
  same_batch : call.refresh.key.tableKey = key.tableKey
  gone : t.cache.batches.get? key.tableKey = none
  signed : ∃ answer, e.call = .answer read (.ok answer) ∧ (answer.getD .empty).get? key.fileId = some link

/-- A link that is there after an event was there before, or it was stocked. -/
theorem step_link (held : (t.step e).cache.entries.get? key = some link) :
    t.cache.entries.get? key = some link ∨
      ∃ s, t.stocks e = some s ∧ s.tableKey = key.tableKey ∧ s.links.get? key.fileId = some link := by
  cases stored : t.stocks e with
  | some s =>
    rw [step_stocks stored] at held
    have stocked := get?_of_capped held
    rw [get?_stocked] at stocked
    split at stocked
    · rename_i same
      obtain signed | ⟨-, before⟩ := Option.or_eq_some_iff.mp stocked
      · exact Or.inr ⟨s, rfl, same.symm, signed⟩
      · exact Or.inl before
    · exact Or.inl stocked
  | none =>
    obtain ⟨touched, -, after⟩ | ⟨-, part⟩ := step_unstocked stored
    · rw [after, OrderedMap.get?_touch] at held
      exact Or.inl held
    · exact Or.inl (OrderedMap.get?_of_subset (fun _ => part.mem) held)

/-- A batch that is registered at an event is there after it. -/
theorem step_registered (registers : e.registers? = some tableKey) :
    (t.step e).cache.batches.get? tableKey ≠ none := by
  obtain ⟨m, call⟩ := e
  cases call with
  | register key table fileIds links refresher =>
    cases registers
    simp [step]
  | release | get | wake | answer | sweep | shutdown => cases registers

/-- A batch is not there after an event unless it was there or is registered. -/
theorem step_unregistered (unregistered : t.cache.batches.get? tableKey = none)
    (silent : e.registers? ≠ some tableKey) : (t.step e).cache.batches.get? tableKey = none := by
  refine Option.eq_none_iff_forall_ne_some.mpr fun batch found => ?_
  have other (table ids links refresher) : e.call ≠ .register tableKey table ids links refresher := fun call =>
    silent (by rw [Event.registers?, call])
  obtain ⟨before, registered, -⟩ := step_fileIds other found
  rw [unregistered] at registered
  cases registered

private theorem roll_eq_none_iff {c : Cache} {tableKey : String} :
    c.roll tableKey = none ↔ c.batches.get? tableKey = none := Option.map_eq_none_iff

/-- No event takes away a batch of which it leaves a link. -/
theorem step_keeps_batch (held : (t.step e).cache.entries.get? key = some link)
    (gone : (t.step e).cache.batches.get? key.tableKey = none) : t.cache.batches.get? key.tableKey = none := by
  obtain ⟨m, call⟩ := e
  cases call with
  | register tableKey table fileIds links refresher =>
    simp only [step, get?_register] at gone
    split at gone
    · cases gone
    · exact gone
  | release tableKey =>
    simp only [step, get?_release] at gone
    split at gone
    · exact Option.map_eq_none_iff.mp gone
    · exact gone
  | get key' =>
    rw [← roll_eq_none_iff] at gone ⊢
    simp only [step, look_cache, roll_look] at gone
    exact gone
  | wake read =>
    rw [← roll_eq_none_iff] at gone ⊢
    simp only [step] at gone
    split at gone
    · rwa [look_cache, roll_look] at gone
    · exact gone
  | answer read signature =>
    rw [← roll_eq_none_iff] at gone ⊢
    simp only [step] at gone
    split at gone
    · exact (roll_finishRefresh _ _).symm.trans gone
    · exact gone
  | sweep => exact sweep_keeps_batch held gone
  | shutdown => simp [step, Cache.shutdown] at held

/-- A link without a batch was there without one before, or its answer came late. -/
theorem step_orphan (held : (t.step e).cache.entries.get? key = some link)
    (gone : (t.step e).cache.batches.get? key.tableKey = none) :
    (t.cache.entries.get? key = some link ∧ t.cache.batches.get? key.tableKey = none ∧
        e.registers? ≠ some key.tableKey) ∨
      ∃ read call, LateAnswer t e read call key link := by
  have before := step_keeps_batch held gone
  have silent : e.registers? ≠ some key.tableKey := fun registers => step_registered registers gone
  obtain old | ⟨s, stocked, same, signed⟩ := step_link held
  · exact Or.inl ⟨old, before, silent⟩
  · rcases stocks_cases stocked with
      ⟨tableKey, table, fileIds, links, refresher, called, -, rfl⟩ | ⟨read, links, call, called, signing, rfl⟩
    · refine absurd ?_ silent
      rw [Event.registers?, called, ← same]
    · exact Or.inr ⟨read, call, signing, same, before, links, called, signed⟩

variable {settings : CacheSettings} {later earlier : List Event}

/-- A batch that is gone stays away until it is registered. -/
theorem run_unregistered (unregistered : (run settings earlier).cache.batches.get? tableKey = none)
    (silent : ∀ e ∈ later, e.registers? ≠ some tableKey) :
    (run settings (later ++ earlier)).cache.batches.get? tableKey = none := by
  induction later with
  | nil => exact unregistered
  | cons e later ih =>
    obtain ⟨now, silent⟩ := List.forall_mem_cons.mp silent
    exact step_unregistered (ih silent) now

/-- A link that has no batch after a history was there at any earlier point, or
its answer has come late since. -/
theorem run_orphan (held : (run settings (later ++ earlier)).cache.entries.get? key = some link)
    (gone : (run settings (later ++ earlier)).cache.batches.get? key.tableKey = none) :
    (run settings earlier).cache.entries.get? key = some link ∨
      ∃ after e during read call, later = after ++ e :: during ∧
        LateAnswer (run settings (during ++ earlier)) e read call key link ∧
        ∀ e' ∈ after, e'.registers? ≠ some key.tableKey := by
  induction later with
  | nil => exact Or.inl held
  | cons e later ih =>
    obtain ⟨held, gone, silent⟩ | ⟨read, call, late⟩ := step_orphan held gone
    · obtain old | ⟨after, e', during, read, call, rfl, late, unregistered⟩ := ih held gone
      · exact Or.inl old
      · exact Or.inr ⟨e :: after, e', during, read, call, rfl, late, List.forall_mem_cons.mpr ⟨silent, unregistered⟩⟩
    · exact Or.inr ⟨[], e, later, read, call, rfl, late, List.forall_mem_nil _⟩

/-- Without batches no service is asked to sign. -/
theorem step_signing {read : Nat} {call : SignCall} (signing : (t.step e).Signing read call)
    (empty : ∀ tableKey, t.cache.batches.get? tableKey = none) : t.Signing read call := by
  refine signing.of_step.resolve_right fun starts => ?_
  obtain ⟨l, batch, issuer, -, registered, -⟩ := step_starts starts
  rw [empty] at registered
  cases registered

/-- A service that signs although there have been no batches for some time was asked before. -/
theorem run_signing {read : Nat} {call : SignCall}
    (empty : ∀ tableKey, (run settings earlier).cache.batches.get? tableKey = none)
    (silent : ∀ e ∈ later, e.registers? = none) (signing : (run settings (later ++ earlier)).Signing read call) :
    (run settings earlier).Signing read call := by
  induction later with
  | nil => exact signing
  | cons e later ih =>
    obtain ⟨-, silent⟩ := List.forall_mem_cons.mp silent
    refine ih silent (step_signing signing fun tableKey => run_unregistered (empty tableKey) fun e' member => ?_)
    simp [silent e' member]

/-- An answer to a read whose lease has not expired is in time, as long as the
clock never goes back and the cache is not shut down. -/
theorem LateAnswer.expired {read : Nat} {call : SignCall} (late : LateAnswer (run settings earlier) e read call key link)
    (clock : (e :: earlier).Pairwise fun later earlier => earlier.moment.monotonic ≤ later.moment.monotonic)
    (running : ∀ e ∈ earlier, e.call ≠ .shutdown) :
    Seconds.later call.started settings.lease ≤ e.moment.monotonic := by
  obtain ⟨past, clock⟩ := List.pairwise_cons.mp clock
  refine Rat.not_lt.mp fun unexpired => ?_
  have leased := leased_run settings clock running past
  obtain ⟨batch, registered, -⟩ := leased read call late.signing (by rwa [leaseEnd, settings_run])
  rw [late.same_batch, late.gone] at registered
  cases registered

/-- A link is without a batch exactly if its answer came late and no batch has
been registered for it since. Sweeps take out only expired links of released
batches, so they never take it. It can be there after a shutdown if a service was
signing then, and without a shutdown only if its refresh outlived its lease. -/
theorem unbatched_links_came_late {calls : List Event}
    (held : (run settings calls).cache.entries.get? key = some link) :
    ((run settings calls).cache.batches.get? key.tableKey = none ↔
      ∃ later e earlier read call, calls = later ++ e :: earlier ∧
        LateAnswer (run settings earlier) e read call key link ∧
        ∀ e' ∈ later, e'.registers? ≠ some key.tableKey) ∧
    (∀ m now, m.epoch = .ok now →
      ((run settings (⟨m, .sweep⟩ :: calls)).cache.entries.get? key = none ↔
        link.expiration ≤ now ∧ ∃ batch, (run settings calls).cache.batches.get? key.tableKey = some batch ∧
          Batch.isReleased batch = true)) ∧
    (∀ later m earlier, calls = later ++ ⟨m, .shutdown⟩ :: earlier → (∀ e ∈ later, e.registers? = none) →
      ∃ after e during read call, later = after ++ e :: during ∧ (run settings earlier).Signing read call ∧
        LateAnswer (run settings (during ++ ⟨m, .shutdown⟩ :: earlier)) e read call key link) ∧
    ∀ later e earlier read call, calls = later ++ e :: earlier →
      LateAnswer (run settings earlier) e read call key link →
      (e :: earlier).Pairwise (fun later earlier => earlier.moment.monotonic ≤ later.moment.monotonic) →
      (∀ e ∈ earlier, e.call ≠ .shutdown) → Seconds.later call.started settings.lease ≤ e.moment.monotonic := by
  refine ⟨⟨?_, ?_⟩, fun m now clock => sweep_takes_iff clock held, ?_, ?_⟩
  · intro gone
    rw [← List.append_nil calls] at held gone
    obtain old | ⟨later, e, earlier, read, call, split, late, silent⟩ := run_orphan held gone
    · cases old
    · rw [List.append_nil] at late
      exact ⟨later, e, earlier, read, call, split, late, silent⟩
  · rintro ⟨later, e, earlier, read, call, rfl, late, silent⟩
    obtain ⟨answer, answered, -⟩ := late.signed
    refine run_unregistered (step_unregistered late.gone ?_) silent
    simp [Event.registers?, answered]
  · rintro later m earlier rfl silent
    have empty (tableKey : String) :
        (run settings (⟨m, .shutdown⟩ :: earlier)).cache.batches.get? tableKey = none := rfl
    have unregistered (e : Event) (member : e ∈ later) : e.registers? ≠ some key.tableKey := by
      simp [silent e member]
    have gone := run_unregistered (empty key.tableKey) unregistered
    obtain old | ⟨after, e, during, read, call, rfl, late, -⟩ := run_orphan held gone
    · cases old
    · have asked : (run settings (⟨m, .shutdown⟩ :: earlier)).Signing read call :=
        run_signing empty (fun e' member => silent e' (by simp [member])) late.signing
      exact ⟨after, e, during, read, call, rfl, asked, late⟩
  · intro later e earlier read call _ late clock running
    exact late.expired clock running

/-- A refresh outlives its lease of ten seconds, another takes over, and the
batch is released and swept. The late answer is stored, and no sweep takes it. -/
theorem link_after_lost_lease_is_never_swept :
    let settings : CacheSettings := ⟨some ⟨"service"⟩, 0, 10, 10, 60⟩
    let table : TableReference := ⟨"share", "schema", "orders"⟩
    let file : EntryKey := ⟨"orders", "part-1"⟩
    let link : Link := ⟨"late", 50⟩
    let moment (time : Seconds) : Moment := .still 0 time
    let earlier : List Event :=
      [⟨moment 21, .sweep⟩, ⟨moment 21, .release "orders"⟩, ⟨moment 21, .answer 1 (.ok none)⟩,
        ⟨moment 20, .get file⟩, ⟨moment 0, .get file⟩,
        ⟨moment 0, .register "orders" table ["part-1"] .empty none⟩]
    let calls : List Event := ⟨moment 22, .answer 0 (.ok (some (.ofList [("part-1", link)])))⟩ :: earlier
    (run settings calls).cache.entries.get? file = some link ∧
      (run settings calls).cache.batches.get? "orders" = none ∧
      ∀ now, (run settings (⟨.still now 30, .sweep⟩ :: calls)).cache.entries.get? file ≠ none := by
  intro settings table file link moment earlier calls
  have held : (run settings calls).cache.entries.get? file = some link := by decide +kernel
  obtain ⟨unbatched, swept, -, -⟩ := unbatched_links_came_late held
  have late : LateAnswer (run settings earlier) ⟨moment 22, .answer 0 (.ok (some (.ofList [("part-1", link)])))⟩ 0
      ⟨⟨"service"⟩, ⟨file, 0, 1, table, ["part-1"]⟩, 0⟩ file link := {
    signing := by decide +kernel
    same_batch := rfl
    gone := by decide +kernel
    signed := ⟨_, rfl, by decide +kernel⟩ }
  have gone := unbatched.mpr ⟨[], _, earlier, _, _, rfl, late, List.forall_mem_nil _⟩
  refine ⟨held, gone, fun now taken => ?_⟩
  obtain ⟨-, batch, registered, -⟩ := (swept (.still now 30) now rfl).mp taken
  rw [gone] at registered
  cases registered

/-- A service answers a read after the cache has been shut down, and its link
is there without a batch. -/
theorem late_answer_fills_shut_cache :
    let settings : CacheSettings := ⟨some ⟨"service"⟩, 0, 10, 10, 60⟩
    let moment : Moment := .still 0 0
    let file : EntryKey := ⟨"orders", "part-1"⟩
    let link : Link := ⟨"late", 50⟩
    let after := run settings
      [⟨moment, .answer 0 (.ok (some (.ofList [("part-1", link)])))⟩, ⟨moment, .shutdown⟩, ⟨moment, .get file⟩,
        ⟨moment, .register "orders" ⟨"share", "schema", "orders"⟩ ["part-1"] .empty none⟩]
    after.cache.entries.get? file = some link ∧ after.cache.batches.get? "orders" = none := by
  decide +kernel

end Traffic
end SharedTables.Cache
