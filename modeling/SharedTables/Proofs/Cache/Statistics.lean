import SharedTables.Proofs.Cache.Turnover

/-! What the numbers of a cache add up to. Every miss begins a refresh, and a
refresh ends well, fails or is still under way; a read that returns has counted
one hit, or the miss and the refresh of its own. Nothing but a read counts any
of these, so the cache balances because each of its reads does. -/
namespace SharedTables.Cache

/-- Hits, misses and the ends of refreshes. -/
structure Counts where
  hits : Nat := 0
  misses : Nat := 0
  refreshes : Nat := 0
  refreshFailures : Nat := 0
  deriving DecidableEq

namespace Counts

instance : Add Counts :=
  ⟨fun a b => ⟨a.hits + b.hits, a.misses + b.misses, a.refreshes + b.refreshes, a.refreshFailures + b.refreshFailures⟩⟩

instance : Sub Counts :=
  ⟨fun a b => ⟨a.hits - b.hits, a.misses - b.misses, a.refreshes - b.refreshes, a.refreshFailures - b.refreshFailures⟩⟩

theorem add_sub_self (a b : Counts) : a + b - a = b := by
  show Counts.mk (a.hits + b.hits - a.hits) (a.misses + b.misses - a.misses) (a.refreshes + b.refreshes - a.refreshes)
    (a.refreshFailures + b.refreshFailures - a.refreshFailures) = b
  simp only [Nat.add_sub_cancel_left]

@[simp]
theorem add_misses (a b : Counts) : (a + b).misses = a.misses + b.misses := rfl

@[simp]
theorem add_refreshes (a b : Counts) : (a + b).refreshes = a.refreshes + b.refreshes := rfl

@[simp]
theorem add_refreshFailures (a b : Counts) : (a + b).refreshFailures = a.refreshFailures + b.refreshFailures := rfl

theorem add_nothing (a : Counts) : a + {} = a := rfl

theorem nothing_add (a : Counts) : {} + a = a := by
  show Counts.mk (0 + a.hits) (0 + a.misses) (0 + a.refreshes) (0 + a.refreshFailures) = a
  simp only [Nat.zero_add]

theorem add_right_comm (a b c : Counts) : a + b + c = a + c + b := by
  change Counts.mk _ _ _ _ = Counts.mk _ _ _ _
  congr 1 <;> exact Nat.add_right_comm ..

end Counts

/-- What a cache has counted, but for evictions. -/
def counts (c : Cache) : Counts := ⟨c.stats.hits, c.stats.misses, c.stats.refreshes, c.stats.refreshFailures⟩

variable {c : Cache} {m : Moment} {l : Lookup}

theorem stats_ext {d : Cache} (counts : c.counts = d.counts) (evictions : c.stats.evictions = d.stats.evictions) :
    c.stats = d.stats := by
  obtain ⟨hits, misses, refreshes, failures⟩ := Counts.mk.inj counts
  change CacheStats.mk .. = CacheStats.mk ..
  rw [hits, misses, refreshes, failures, evictions]

/-- What a stretch of a read counts, by the way it ends. -/
inductive LookCounts (before : CacheStats) : CacheStats → ReadProgress → Prop
  | hits (link : Link) : LookCounts before { before with hits := before.hits + 1 } (.done (.ok link))
  | refused (fault : Fault) : LookCounts before before (.done (.error fault))
  | waits (limit : Seconds) (l : Lookup) : LookCounts before before (.wait limit l)
  | signs (issuer : Issuer) (refresh : Refresh) :
      LookCounts before { before with misses := before.misses + 1 } (.sign issuer refresh)
  /-- There is no service to ask, so the refresh has failed already. -/
  | unserved (fault : Fault) :
      LookCounts before
        { before with misses := before.misses + 1, refreshFailures := before.refreshFailures + 1 }
        (.done (.error fault))

private theorem afterRefresh_counts {key : EntryKey} {batch : Batch} :
    LookCounts c.stats (c.afterRefresh key batch).1.stats (.done (c.afterRefresh key batch).2) := by
  unfold afterRefresh
  split
  · exact .refused _
  · exact .refused _
  · exact .hits _

private theorem lookInBatch_counts (batch : Batch) :
    LookCounts c.stats (c.lookInBatch m l batch).1.stats (c.lookInBatch m l batch).2 := by
  unfold lookInBatch
  split
  · exact .refused _
  · split
    · exact afterRefresh_counts
    · split
      · unfold awaitRefresh
        dsimp only
        split
        · exact .refused _
        · exact .waits _ _
      · unfold refreshBatch
        cases c.issuerFor batch with
        | some issuer => exact .signs issuer _
        | none => exact .unserved _

theorem look_counts (c : Cache) (m : Moment) (l : Lookup) :
    LookCounts c.stats (c.look m l).1.stats (c.look m l).2 := by
  unfold look
  cases c.freshLink? m l.key with
  | error fault => exact .refused fault
  | ok found =>
    cases found with
    | some link => exact .hits link
    | none =>
      cases c.batches.get? l.key.tableKey with
      | none => exact .refused _
      | some batch => exact lookInBatch_counts batch

theorem look_evictions (c : Cache) (m : Moment) (l : Lookup) :
    (c.look m l).1.stats.evictions = c.stats.evictions := by
  have counted := look_counts c m l
  generalize (c.look m l).1.stats = after, (c.look m l).2 = progress at counted ⊢
  cases counted <;> rfl

theorem look_size (c : Cache) (m : Moment) (l : Lookup) : (c.look m l).1.entries.size = c.entries.size := by
  rw [look_entries]
  split
  · exact size_touch
  · rfl

/-- A look evicts nothing and takes no link in. -/
theorem look_turnover (c : Cache) (m : Moment) (l : Lookup) : (c.look m l).1.turnover = c.turnover := by
  rw [turnover, turnover, look_evictions, look_size]

private theorem enforceCapacity_counts : (c.enforceCapacity m).1.counts = c.counts := by
  unfold enforceCapacity
  split
  · rfl
  · cases m.epoch <;> rfl

/-- Storing counts nothing but evictions. -/
theorem store_counts (c : Cache) (m : Moment) (tableKey : String) (links : Links) (requested : Option EntryKey) :
    (c.store m tableKey links requested).1.counts = c.counts := by
  cases requested <;> exact enforceCapacity_counts

/-- What the end of a refresh counts: it has ended well if a service has answered it. -/
theorem finishRefresh_counts (c : Cache) (m : Moment) (r : Refresh) (answer : Signature) :
    (∃ links, answer = .ok links ∧ (c.finishRefresh m r answer).1.counts = c.counts + { refreshes := 1 }) ∨
      (∃ fault, answer = .error fault) ∧ (∃ fault, (c.finishRefresh m r answer).2 = .error fault) ∧
        (c.finishRefresh m r answer).1.counts = c.counts + { refreshFailures := 1 } := by
  cases answer with
  | error fault =>
    refine Or.inr ⟨⟨fault, rfl⟩, ?_, rfl⟩
    cases fault <;> exact ⟨_, rfl⟩
  | ok links =>
    refine Or.inl ⟨links, rfl, ?_⟩
    let counted := { c with stats := { c.stats with refreshes := c.stats.refreshes + 1 } }
    have stored := store_counts counted m r.key.tableKey (links.getD .empty) (some r.key)
    simp only [finishRefresh, refreshed]
    rcases went : counted.store m r.key.tableKey (links.getD .empty) (some r.key) with ⟨after, _ | _⟩ <;>
      rw [went] at stored <;> exact stored

/-- Whether a service signs for a read at a stage. -/
def Stage.isSigning : Stage → Bool
  | .signing _ => true
  | _ => false

/-- What a read has counted by the time it has come to a stage. -/
inductive Charged : Stage → Counts → Prop
  | waits (l : Lookup) : Charged (.waiting l) {}
  | signs (call : SignCall) : Charged (.signing call) { misses := 1 }
  | hits (link : Link) : Charged (.ended (.ok link)) { hits := 1 }
  | refreshes (link : Link) : Charged (.ended (.ok link)) { misses := 1, refreshes := 1 }
  | refused (fault : Fault) : Charged (.ended (.error fault)) {}
  | fails (fault : Fault) : Charged (.ended (.error fault)) { misses := 1, refreshFailures := 1 }
  /-- The service has answered, but without a link for the file. -/
  | lacks (fault : Fault) : Charged (.ended (.error fault)) { misses := 1, refreshes := 1 }

/-- A read's misses are its refreshes that have ended, and the one under way. -/
theorem Charged.balanced {stage : Stage} {spent : Counts} (charged : Charged stage spent) :
    spent.misses = spent.refreshes + spent.refreshFailures + if stage.isSigning then 1 else 0 := by
  cases charged <;> rfl

namespace Traffic

/-- The refreshes for which a service signs. -/
def underway (t : Traffic) : Nat := t.reads.countP Stage.isSigning

/-- The read that an event is a stretch of. -/
def readOf (t : Traffic) (e : Event) : Option Nat :=
  match e.call with
  | .get _ => some t.reads.length
  | .wake read => some read
  | .answer read _ => some read
  | _ => none

/-- What the stretches of a read have counted during a history. -/
def account (settings : CacheSettings) (read : Nat) : List Event → Counts
  | [] => {}
  | e :: earlier =>
    let t := run settings earlier
    if t.readOf e = some read then account settings read earlier + ((t.step e).cache.counts - t.cache.counts)
    else account settings read earlier

/-- How an event changes the reads, and what it counts. -/
inductive Counting (t : Traffic) (e : Event) : Traffic → Prop
  | quiet (reads : t'.reads = t.reads) (counts : t'.cache.counts = t.cache.counts) : Counting t e t'
  | begins (after : Stage) (added : Counts) (own : t.readOf e = some t.reads.length)
      (reads : t'.reads = t.reads ++ [after]) (counts : t'.cache.counts = t.cache.counts + added)
      (charged : Charged after added) : Counting t e t'
  | goesOn (read : Nat) (before after : Stage) (added : Counts) (own : t.readOf e = some read)
      (was : t.reads[read]? = some before) (reads : t'.reads = t.reads.set read after)
      (counts : t'.cache.counts = t.cache.counts + added)
      (charged : ∀ spent, Charged before spent → Charged after (spent + added)) : Counting t e t'

/-- The first stretch of a read, or one after a wait, brings all that the read has counted. -/
theorem look_charged (t : Traffic) (m : Moment) (read : Nat) (l : Lookup) :
    ∃ after added, (t.look m read l).reads = t.reads.set read after ∧
      (t.look m read l).cache.counts = t.cache.counts + added ∧ Charged after added := by
  have counted := look_counts t.cache m l
  unfold look
  generalize t.cache.look m l = went at counted
  obtain ⟨c, progress⟩ := went
  have stats : c.counts = ⟨c.stats.hits, c.stats.misses, c.stats.refreshes, c.stats.refreshFailures⟩ := rfl
  generalize counts : c.stats = after at counted
  rw [counts] at stats
  cases counted with
  | hits link => exact ⟨_, _, rfl, stats, .hits link⟩
  | refused fault => exact ⟨_, _, rfl, stats, .refused fault⟩
  | waits limit l => exact ⟨_, _, rfl, stats, .waits l⟩
  | signs issuer refresh => exact ⟨_, _, rfl, stats, .signs _⟩
  | unserved fault => exact ⟨_, _, rfl, stats, .fails fault⟩

theorem step_counting (t : Traffic) (e : Event) : Counting t e (t.step e) := by
  obtain ⟨m, call⟩ := e
  cases call with
  | register tableKey table fileIds links refresher =>
    refine .quiet rfl ?_
    simp only [step, register]
    split
    · rfl
    · exact store_counts ..
  | release tableKey => exact .quiet rfl rfl
  | get key =>
    let begun := t.begin (t.cache.beginLookup m key)
    obtain ⟨after, added, reads, counts, charged⟩ :=
      look_charged begun m t.reads.length (t.cache.beginLookup m key)
    refine .begins after added rfl (reads.trans ?_) counts charged
    simp [begun, begin]
  | wake read =>
    simp only [step]
    split
    · rename_i lookup waiting
      obtain ⟨after, added, reads, counts, charged⟩ := look_charged t m read lookup
      refine .goesOn read (.waiting lookup) after added rfl waiting reads counts fun spent waited => ?_
      cases waited
      rw [Counts.nothing_add]
      exact charged
    · exact .quiet rfl rfl
  | answer read signature =>
    simp only [step]
    split
    · rename_i call signing
      obtain ⟨links, answered, counts⟩ | ⟨-, ⟨fault, ended⟩, counts⟩ :=
        finishRefresh_counts t.cache m call.refresh signature
      · refine .goesOn read (.signing call) _ _ rfl signing rfl counts fun spent signed => ?_
        cases signed
        cases (t.cache.finishRefresh m call.refresh signature).2 with
        | ok link => exact .refreshes link
        | error fault => exact .lacks fault
      · refine .goesOn read (.signing call) _ _ rfl signing rfl counts fun spent signed => ?_
        cases signed
        rw [ended]
        exact .fails fault
    · exact .quiet rfl rfl
  | sweep =>
    refine .quiet rfl ?_
    simp only [step, sweep]
    cases m.epoch <;> rfl
  | shutdown => exact .quiet rfl rfl

/-- An event is charged to its own read. -/
theorem account_cons {settings : CacheSettings} {earlier : List Event} {e : Event} {added : Counts} (read : Nat)
    (counted : ((run settings earlier).step e).cache.counts = (run settings earlier).cache.counts + added) :
    account settings read (e :: earlier) =
      if (run settings earlier).readOf e = some read then account settings read earlier + added
      else account settings read earlier := by
  rw [account, counted, Counts.add_sub_self]

/-- Whether each read has counted what its stage says, and the cache balances. -/
structure Audited (settings : CacheSettings) (calls : List Event) : Prop where
  unbegun : ∀ read, (run settings calls).reads.length ≤ read → account settings read calls = {}
  charged : ∀ read stage, (run settings calls).reads[read]? = some stage →
    Charged stage (account settings read calls)
  balanced : (run settings calls).cache.counts.misses = (run settings calls).cache.counts.refreshes +
    (run settings calls).cache.counts.refreshFailures + (run settings calls).underway

/-- Replacing a stage replaces its part in the refreshes under way. -/
theorem countP_set_stage {reads : List Stage} {read : Nat} {before : Stage} (was : reads[read]? = some before)
    (after : Stage) : (reads.set read after).countP Stage.isSigning + (if before.isSigning then 1 else 0) =
      reads.countP Stage.isSigning + if after.isSigning then 1 else 0 := by
  induction reads generalizing read with
  | nil => cases was
  | cons first rest ih =>
    cases read with
    | zero =>
      cases was
      simp only [List.set_cons_zero, List.countP_cons]
      omega
    | succ read =>
      have others := ih was
      simp only [List.set_cons_succ, List.countP_cons]
      omega

/-- By cases on what the event does to the reads: only the account of its own read grows. -/
theorem Audited.step {settings : CacheSettings} {earlier : List Event} (audited : Audited settings earlier)
    (e : Event) : Audited settings (e :: earlier) := by
  obtain ⟨unbegun, charged, balanced⟩ := audited
  have counting := step_counting (run settings earlier) e
  cases counting with
  | quiet reads counted =>
    have added : ((run settings earlier).step e).cache.counts = (run settings earlier).cache.counts + {} := counted
    have same (read : Nat) : account settings read (e :: earlier) = account settings read earlier := by
      rw [account_cons read added, Counts.add_nothing, ite_self]
    refine ⟨fun read absent => ?_, fun read stage there => ?_, ?_⟩
    · rw [same]
      exact unbegun read (reads ▸ absent)
    · rw [same]
      exact charged read stage (reads ▸ there)
    · simp only [run, underway, reads, counted]
      exact balanced
  | begins after added own reads counted new =>
    have grown (read : Nat) := account_cons read counted
    simp only [own, Option.some.injEq] at grown
    refine ⟨fun read absent => ?_, fun read stage there => ?_, ?_⟩
    · simp only [run, reads, List.length_append, List.length_singleton] at absent
      rw [grown, if_neg (by omega)]
      exact unbegun read (by omega)
    · simp only [run, reads] at there
      rw [List.getElem?_append] at there
      split at there
      · rename_i old
        rw [grown, if_neg (by omega)]
        exact charged read stage there
      · obtain ⟨inside, rfl⟩ := List.getElem?_eq_some_iff.mp there
        rw [List.length_singleton] at inside
        have last : (run settings earlier).reads.length = read := by omega
        rw [grown, if_pos last, unbegun read (by omega), Counts.nothing_add]
        simpa [last] using new
    · have own_balance := new.balanced
      simp only [underway] at balanced
      simp only [run, underway, reads, counted, List.countP_append, List.countP_singleton, Counts.add_misses,
        Counts.add_refreshes, Counts.add_refreshFailures]
      omega
  | goesOn read before after added own was reads counted turns =>
    have grown (other : Nat) := account_cons other counted
    simp only [own, Option.some.injEq] at grown
    have spent := charged read before was
    obtain ⟨inside, -⟩ := List.getElem?_eq_some_iff.mp was
    refine ⟨fun other absent => ?_, fun other stage there => ?_, ?_⟩
    · simp only [run, reads, List.length_set] at absent
      rw [grown, if_neg (by omega)]
      exact unbegun other absent
    · simp only [run, reads] at there
      rw [List.getElem?_set] at there
      rw [grown]
      split at there
      · rename_i same
        subst same
        rw [if_pos rfl]
        cases there
        exact turns _ spent
      · rename_i differ
        rw [if_neg differ]
        exact charged other stage there
    · have was_balanced := spent.balanced
      have now_balanced := (turns _ spent).balanced
      have moved := countP_set_stage was after
      simp only [underway] at balanced
      simp only [run, underway, reads, counted, Counts.add_misses, Counts.add_refreshes,
        Counts.add_refreshFailures] at now_balanced ⊢
      omega

theorem audited_run (settings : CacheSettings) (calls : List Event) : Audited settings calls := by
  induction calls with
  | nil => exact ⟨fun _ _ => rfl, fun _ _ there => (nomatch there), rfl⟩
  | cons e earlier ih => exact ih.step e

/-- How many files were stored during a history where they had no link. -/
def newcomers (settings : CacheSettings) : List Event → Nat
  | [] => 0
  | e :: earlier =>
    let t := run settings earlier
    newcomers settings earlier + ((t.stocks e).map t.cache.newcomers).getD 0

/-- An event other than a shutdown turns over the links that it stores, and no others. -/
theorem step_turnover {t : Traffic} {e : Event} (up : e.call ≠ .shutdown) :
    (t.step e).cache.turnover = t.cache.turnover + ((t.stocks e).map t.cache.newcomers).getD 0 := by
  obtain ⟨m, call⟩ := e
  cases call with
  | register tableKey table fileIds links refresher =>
    simp only [step, stocks, register_turnover]
    split
    · rename_i unlinked
      simp [Cache.newcomers, OrderedMap.keys, List.isEmpty_iff.mp unlinked]
    · rfl
  | release tableKey => rfl
  | get key =>
    simp only [step, look_cache, look_turnover]
    rfl
  | wake read =>
    simp only [step]
    split
    · rw [look_cache, look_turnover]
      rfl
    · rfl
  | answer read signature =>
    simp only [step]
    split
    · rename_i call signing
      cases signature with
      | error fault => rfl
      | ok links => simp only [answer, stocks, signing, finishRefresh_turnover, Option.map_some, Option.getD_some]
    · rename_i unsigned
      cases signature with
      | error fault => rfl
      | ok links =>
        simp only [stocks]
        rfl
  | sweep => exact sweep_turnover t.cache m
  | shutdown => exact absurd rfl up

theorem run_turnover {settings : CacheSettings} {calls : List Event} (up : ∀ e ∈ calls, e.call ≠ .shutdown) :
    (run settings calls).cache.turnover = newcomers settings calls := by
  induction calls with
  | nil => rfl
  | cons e earlier ih =>
    have before := ih fun other member => up other (List.mem_cons_of_mem e member)
    rw [run, step_turnover (up e List.mem_cons_self), before, newcomers]

/-- A cache balances after every history: each miss is a refresh that has ended
or is under way; each read that returned has counted one hit, or one miss and
one refresh; and as long as it is not shut down, a cache holds every link that
has come in but the evicted ones. -/
theorem statistics_balance (settings : CacheSettings) (calls : List Event) :
    let t := run settings calls
    t.cache.stats.misses = t.cache.stats.refreshes + t.cache.stats.refreshFailures + t.underway ∧
      (∀ read link, t.reads[read]? = some (.ended (.ok link)) →
        account settings read calls = { hits := 1 } ∨
          account settings read calls = { misses := 1, refreshes := 1 }) ∧
      ((∀ e ∈ calls, e.call ≠ .shutdown) →
        t.cache.entries.size + t.cache.stats.evictions = newcomers settings calls) := by
  intro t
  have audited := audited_run settings calls
  refine ⟨audited.balanced, fun read link ended => ?_, run_turnover⟩
  have charged := audited.charged read _ ended
  generalize account settings read calls = spent at charged ⊢
  cases charged with
  | hits => exact Or.inl rfl
  | refreshes => exact Or.inr rfl

/-- A cache for one link: a read that brings two keeps one of them, which is then
read again; for a file of another table a service still signs. -/
theorem two_links_for_one_place :
    let settings : CacheSettings := ⟨some ⟨"service"⟩, 0, 1, 30, 60⟩
    let now : Moment := .still 0 0
    let answer : Links := .ofList [("part-1", ⟨"one", 100⟩), ("part-2", ⟨"two", 100⟩)]
    let calls : List Event :=
      [⟨now, .get ⟨"lines", "part-1"⟩⟩,
        ⟨now, .get ⟨"orders", "part-1"⟩⟩,
        ⟨now, .answer 0 (.ok (some answer))⟩,
        ⟨now, .get ⟨"orders", "part-1"⟩⟩,
        ⟨now, .register "lines" ⟨"share", "schema", "lines"⟩ ["part-1"] .empty none⟩,
        ⟨now, .register "orders" ⟨"share", "schema", "orders"⟩ ["part-1"] .empty none⟩]
    let t := run settings calls
    t.cache.stats.misses = 2 ∧ t.cache.stats.refreshes = 1 ∧ t.underway = 1 ∧
      account settings 0 calls = { misses := 1, refreshes := 1 } ∧
      account settings 1 calls = { hits := 1 } ∧
      t.cache.entries.size = 1 ∧ t.cache.stats.evictions = 1 ∧ newcomers settings calls = 2 := by
  intro settings now answer calls t
  obtain ⟨-, read, held⟩ := statistics_balance settings calls
  have first := read 0 ⟨"one", 100⟩ (by decide +kernel)
  have second := read 1 ⟨"one", 100⟩ (by decide +kernel)
  have balance := held (by simp [calls])
  refine ⟨by decide +kernel, by decide +kernel, by decide +kernel, ?_, ?_, by decide +kernel, by decide +kernel, ?_⟩
  · exact first.resolve_left (by decide +kernel)
  · exact second.resolve_right (by decide +kernel)
  · rw [← balance]
    decide +kernel

end Traffic
end SharedTables.Cache
