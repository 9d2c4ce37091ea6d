import SharedTables.Proofs.Cache.Operations

/-! Operations on different batches do not see each other. What an operation
does is decided by its own batch and the links under its key, so as long as
there is room for all links it goes the same way whether another batch has been
used before or not, and the two operations can be swapped. -/
namespace SharedTables.Cache

variable {c d after : Cache} {m : Moment} {tableKey key : String} {entry : EntryKey} {links : Links} {s : Stock}
  {l : Lookup} {batch : Batch}

/-- What a batch records, but for the number that tells it from earlier ones. -/
def Batch.record (batch : Batch) : Batch := { batch with serial := 0 }

/-- Whether two caches look the same to the users of one batch. -/
structure Agree (tableKey : String) (c d : Cache) : Prop where
  settings : d.settings = c.settings
  batch : (d.batches.get? tableKey).map Batch.record = (c.batches.get? tableKey).map Batch.record
  links : linksUnder tableKey d.entries = linksUnder tableKey c.entries

/-- Whether all links that an operation leaves fit, so that none had to be evicted. -/
structure Roomy (c after : Cache) : Prop where
  fits : after.entries.size ≤ c.settings.maxEntries
  kept : after.stats.evictions = c.stats.evictions

/-- An operation that evicts nothing does not show to the users of another batch. -/
theorem Touches.agree (touches : Touches c tableKey after) (other : key ≠ tableKey)
    (kept : after.stats.evictions = c.stats.evictions) : Agree key c after :=
  ⟨touches.settings, congrArg _ (touches.batches key other), (touches.untouched other).links kept⟩

namespace Agree

theorem trans {e : Cache} (agree : Agree key c d) (agree' : Agree key d e) : Agree key c e :=
  ⟨agree'.settings.trans agree.settings, agree'.batch.trans agree.batch, agree'.links.trans agree.links⟩

theorem symm (agree : Agree key c d) : Agree key d c := ⟨agree.settings.symm, agree.batch.symm, agree.links.symm⟩

theorem get? (agree : Agree entry.tableKey c d) : d.entries.get? entry = c.entries.get? entry := by
  have same := congrArg (OrderedMap.get? · entry) agree.links
  simpa only [get?_linksUnder, ↓reduceIte] using same

theorem isFresh (agree : Agree tableKey c d) (link : Link) (now : Int) : d.isFresh link now = c.isFresh link now := by
  rw [Cache.isFresh, Cache.isFresh, agree.settings]

theorem freshLink? (agree : Agree entry.tableKey c d) : d.freshLink? m entry = c.freshLink? m entry := by
  simp only [Cache.freshLink?, agree.get?, agree.isFresh]

theorem freshLinks (agree : Agree tableKey c d) (fileIds : List String) :
    d.freshLinks m tableKey fileIds = c.freshLinks m tableKey fileIds := by
  have found (fileId : String) : d.entries.get? ⟨tableKey, fileId⟩ = c.entries.get? ⟨tableKey, fileId⟩ :=
    Agree.get? agree
  simp only [Cache.freshLinks, found, agree.isFresh]

theorem newcomers (agree : Agree tableKey c d) (own : s.IsOf tableKey) : d.newcomers s = c.newcomers s := by
  obtain ⟨rfl, -⟩ := own
  have found (fileId : String) : d.entries.get? ⟨s.tableKey, fileId⟩ = c.entries.get? ⟨s.tableKey, fileId⟩ :=
    Agree.get? agree
  simp only [Cache.newcomers, found]

theorem unregistered (agree : Agree tableKey c d) (missing : c.batches.get? tableKey = none) :
    d.batches.get? tableKey = none := by
  simpa [missing] using agree.batch

/-- The batches differ in their numbers at most. -/
theorem registered (agree : Agree tableKey c d) (found : c.batches.get? tableKey = some batch) :
    ∃ serial, d.batches.get? tableKey = some { batch with serial } := by
  have same := agree.batch
  rw [found] at same
  obtain ⟨batch', found', records⟩ := Option.map_eq_some_iff.mp same
  refine ⟨batch'.serial, ?_⟩
  rw [found']
  cases batch
  cases batch'
  simp only [Batch.record, Batch.mk.injEq, true_and] at records
  simp [records]

theorem issuerFor (agree : Agree tableKey c d) (batch : Batch) (serial : Nat) :
    d.issuerFor { batch with serial } = c.issuerFor batch := by
  rw [Cache.issuerFor, Cache.issuerFor, agree.settings]

end Agree

/-- Two operations that go the same way: with one result, and with one change of
the batch, its links, the statistics and the number of links. -/
structure SideBySide (tableKey : String) (c d : Cache) (went went' : Cache × α) : Prop where
  result : went'.2 = went.2
  agree : Agree tableKey went.1 went'.1
  counts : ∃ added, went.1.counts = c.counts + added ∧ went'.1.counts = d.counts + added
  kept : went'.1.stats.evictions = d.stats.evictions
  size : went'.1.entries.size + c.entries.size = went.1.entries.size + d.entries.size

/-- Links for which there is room are stored, and nothing else happens. -/
theorem store_roomy (c : Cache) (m : Moment) (requested : Option EntryKey)
    (fits : (c.stocked ⟨tableKey, links, requested⟩).size ≤ c.settings.maxEntries) :
    c.store m tableKey links requested = ({ c with entries := c.stocked ⟨tableKey, links, requested⟩ }, .ok ()) := by
  cases requested <;> exact if_pos fits

/-- A stock that fits in one of two caches fits in the other as well, if that
has room for as many more. -/
theorem stocked_roomy (agree : Agree tableKey c d) (own : s.IsOf tableKey)
    (turnover : after.turnover = c.turnover + c.newcomers s) (roomy : Roomy c after)
    (room : d.entries.size + after.entries.size ≤ c.settings.maxEntries + c.entries.size) :
    (c.stocked s).size ≤ c.settings.maxEntries ∧ (d.stocked s).size ≤ d.settings.maxEntries ∧
      (d.stocked s).size + c.entries.size = (c.stocked s).size + d.entries.size := by
  have counted := turnover_stored turnover
  have size := size_stocked c s
  have size' := size_stocked d s
  have kept := roomy.kept
  have fits := roomy.fits
  rw [agree.newcomers own] at size'
  rw [agree.settings]
  omega

theorem register_roomy {table : TableReference} {fileIds : List String} {refresher : Option Issuer}
    (fits : (c.stocked ⟨tableKey, links, none⟩).size ≤ c.settings.maxEntries) :
    c.register m tableKey table fileIds links refresher =
      ({ c with
        entries := c.stocked ⟨tableKey, links, none⟩
        batches := c.batches.insert tableKey
          (Batch.attach ((c.batches.get? tableKey).getD (newBatch c.nextNumber table)) fileIds refresher)
        nextNumber := c.nextNumber + 1 }, .ok ()) := by
  unfold register
  split
  · rename_i unlinked
    have nothing : c.stocked ⟨tableKey, links, none⟩ = c.entries := by
      simp only [stocked, putLinks, List.isEmpty_iff.mp unlinked, List.foldl_nil]
    rw [nothing]
  · exact store_roomy _ m none fits

theorem register_sideBySide {table : TableReference} {fileIds : List String} {refresher : Option Issuer}
    (agree : Agree tableKey c d) (roomy : Roomy c (c.register m tableKey table fileIds links refresher).1)
    (room : d.entries.size + (c.register m tableKey table fileIds links refresher).1.entries.size ≤
      c.settings.maxEntries + c.entries.size) :
    SideBySide tableKey c d (c.register m tableKey table fileIds links refresher)
      (d.register m tableKey table fileIds links refresher) := by
  have own : Stock.IsOf ⟨tableKey, links, none⟩ tableKey := ⟨rfl, fun _ requests => nomatch requests⟩
  obtain ⟨fits, fits', size⟩ := stocked_roomy agree own (register_turnover ..) roomy room
  rw [register_roomy fits, register_roomy fits']
  refine {
    result := rfl
    agree := ⟨agree.settings, ?_, linksUnder_stocked_own own agree.links⟩
    counts := ⟨{}, rfl, rfl⟩
    kept := rfl
    size := size }
  simp only [OrderedMap.get?_insert, ↓reduceIte, Option.map_some]
  cases found : c.batches.get? tableKey with
  | none =>
    rw [agree.unregistered found]
    rfl
  | some batch =>
    obtain ⟨serial, found'⟩ := agree.registered found
    rw [found']
    rfl

theorem release_sideBySide (agree : Agree tableKey c d) :
    SideBySide tableKey c d (c.release tableKey, Outcome.released) (d.release tableKey, Outcome.released) := by
  refine {
    result := rfl
    agree := ⟨agree.settings, ?_, agree.links⟩
    counts := ⟨{}, rfl, rfl⟩
    kept := rfl
    size := Nat.add_comm .. }
  simp only [get?_release, ↓reduceIte]
  cases found : c.batches.get? tableKey with
  | none => rw [agree.unregistered found]
  | some batch =>
    obtain ⟨serial, found'⟩ := agree.registered found
    rw [found']
    rfl

/-- A refresh that a read makes for its batch, from the lease to the end. -/
def attempt (c : Cache) (m : Moment) (entry : EntryKey) (batch : Batch) (ended : Moment) (answer : Signature) :
    Cache × Except Fault Link :=
  (c.takeLease m entry batch).1.finishRefresh ended (c.takeLease m entry batch).2 answer

/-- The batch after a refresh that no other has taken over. -/
theorem attempt_batch {ended : Moment} {answer : Signature} {fault : Option Fault}
    (registered : c.batches.get? entry.tableKey = some batch)
    (noted : (c.takeLease m entry batch).1.outcome? ended (c.takeLease m entry batch).2 answer = some fault) :
    (c.attempt m entry batch ended answer).1.batches.get? entry.tableKey =
      some { batch with lease := none, generation := batch.generation + 1, lastFault := fault } := by
  obtain ⟨batches, -⟩ := finishRefresh_spec (c.takeLease m entry batch).1 ended (c.takeLease m entry batch).2 answer
  rw [attempt, batches, noted]
  simp [takeLease, registered, Batch.settle]

theorem refreshed_roomy {r : Refresh}
    (fits : (c.stocked ⟨r.key.tableKey, links, some r.key⟩).size ≤ c.settings.maxEntries) :
    c.refreshed m r links =
      (Cache.settleBatch { c with
        entries := c.stocked ⟨r.key.tableKey, links, some r.key⟩
        stats := { c.stats with refreshes := c.stats.refreshes + 1 } } r none,
        ((c.stocked ⟨r.key.tableKey, links, some r.key⟩).get? r.key).elim
          (.error (.credential (.notSignedInBatch r.key.fileId r.key.tableKey))) .ok) := by
  let counted : Cache := { c with stats := { c.stats with refreshes := c.stats.refreshes + 1 } }
  have stored := store_roomy counted m (some r.key) fits
  have stocked : counted.stocked ⟨r.key.tableKey, links, some r.key⟩ = c.stocked ⟨r.key.tableKey, links, some r.key⟩ :=
    rfl
  rw [stocked] at stored
  simp only [refreshed, counted, stored]
  cases (c.stocked ⟨r.key.tableKey, links, some r.key⟩).get? r.key <;> rfl

theorem outcome?_roomy {r : Refresh} {answer : Option Links}
    (fits : (c.stocked ⟨r.key.tableKey, answer.getD .empty, some r.key⟩).size ≤ c.settings.maxEntries) :
    c.outcome? m r (.ok answer) = some none := by
  simp only [outcome?, store_roomy c m (some r.key) fits]

/-- An attempt with an answer for which there is room stores it and ends well. -/
theorem attempt_answered (m : Moment) (batch : Batch) (ended : Moment) {answer : Option Links}
    (fits : (c.stocked ⟨entry.tableKey, answer.getD .empty, some entry⟩).size ≤ c.settings.maxEntries) :
    (c.attempt m entry batch ended (.ok answer)).1.settings = c.settings ∧
      (c.attempt m entry batch ended (.ok answer)).1.entries =
        c.stocked ⟨entry.tableKey, answer.getD .empty, some entry⟩ ∧
      (c.attempt m entry batch ended (.ok answer)).1.stats =
        { c.stats with misses := c.stats.misses + 1, refreshes := c.stats.refreshes + 1 } ∧
      (c.attempt m entry batch ended (.ok answer)).2 =
        ((c.stocked ⟨entry.tableKey, answer.getD .empty, some entry⟩).get? entry).elim
          (.error (.credential (.notSignedInBatch entry.fileId entry.tableKey))) .ok := by
  have went : c.attempt m entry batch ended (.ok answer) = _ :=
    refreshed_roomy (c := (c.takeLease m entry batch).1) (r := (c.takeLease m entry batch).2) fits
  rw [went]
  exact ⟨rfl, rfl, rfl, rfl⟩

/-- Refreshes of one batch go side by side if they are answered in the same way. -/
theorem attempt_sideBySide {ended : Moment} {answer : Signature} {serial : Nat} (agree : Agree entry.tableKey c d)
    (registered : c.batches.get? entry.tableKey = some batch)
    (registered' : d.batches.get? entry.tableKey = some { batch with serial })
    (roomy : Roomy c (c.attempt m entry batch ended answer).1)
    (room : d.entries.size + (c.attempt m entry batch ended answer).1.entries.size ≤
      c.settings.maxEntries + c.entries.size) :
    SideBySide entry.tableKey c d (c.attempt m entry batch ended answer)
      (d.attempt m entry { batch with serial } ended answer) := by
  -- The two records agree once both leases have been given back.
  have records {fault : Option Fault}
      (noted : (c.takeLease m entry batch).1.outcome? ended (c.takeLease m entry batch).2 answer = some fault)
      (noted' : (d.takeLease m entry { batch with serial }).1.outcome? ended
        (d.takeLease m entry { batch with serial }).2 answer = some fault) :
      ((d.attempt m entry { batch with serial } ended answer).1.batches.get? entry.tableKey).map Batch.record =
        ((c.attempt m entry batch ended answer).1.batches.get? entry.tableKey).map Batch.record := by
    rw [attempt_batch registered noted, attempt_batch registered' noted']
    rfl
  cases answer with
  | error fault =>
    exact {
      result := by cases fault <;> rfl
      agree := ⟨agree.settings, records rfl rfl, agree.links⟩
      counts := ⟨{ misses := 1, refreshFailures := 1 }, rfl, rfl⟩
      kept := rfl
      size := Nat.add_comm .. }
  | ok answer =>
    let stock : Stock := ⟨entry.tableKey, answer.getD .empty, some entry⟩
    have own : stock.IsOf entry.tableKey := by
      refine ⟨rfl, ?_⟩
      rintro requested ⟨⟩
      rfl
    obtain ⟨fits, fits', size⟩ := stocked_roomy agree own (finishRefresh_turnover ..) roomy room
    obtain ⟨settings, entries, stats, result⟩ := attempt_answered m batch ended fits
    obtain ⟨settings', entries', stats', result'⟩ := attempt_answered m { batch with serial } ended fits'
    refine {
      result := ?_
      agree := ⟨settings'.trans (agree.settings.trans settings.symm),
        records (outcome?_roomy fits) (outcome?_roomy fits'), ?_⟩
      counts := ⟨{ misses := 1, refreshes := 1 }, ?_, ?_⟩
      kept := ?_
      size := ?_ }
    · rw [result, result', get?_stocked, get?_stocked, agree.get?]
    · rw [entries, entries']
      exact linksUnder_stocked_own own agree.links
    · rw [counts, stats]
      rfl
    · rw [counts, stats']
      rfl
    · rw [stats']
    · rw [entries, entries', size]

/-- How stretches of two reads of one file go side by side. -/
inductive Pace (c d : Cache) (m : Moment) (l : Lookup) : Cache × ReadProgress → Cache × ReadProgress → Prop
  | ends (result : Except Fault Link) (added : Counts) {left right : Cache}
      (agree : Agree l.key.tableKey left right) (counts : left.counts = c.counts + added)
      (counts' : right.counts = d.counts + added) : Pace c d m l (left, .done result) (right, .done result)
  | waits (limit : Seconds) (l' : Lookup) (own : l'.key = l.key) : Pace c d m l (c, .wait limit l') (d, .wait limit l')
  | refreshes (batch : Batch) (serial : Nat) (registered : c.batches.get? l.key.tableKey = some batch)
      (registered' : d.batches.get? l.key.tableKey = some { batch with serial }) :
      Pace c d m l (c.refreshBatch m l.key batch) (d.refreshBatch m l.key { batch with serial })

private theorem afterRefresh_pace {serial : Nat} (agree : Agree l.key.tableKey c d) :
    Pace c d m l ((c.afterRefresh l.key batch).1, .done (c.afterRefresh l.key batch).2)
      ((d.afterRefresh l.key { batch with serial }).1, .done (d.afterRefresh l.key { batch with serial }).2) := by
  unfold afterRefresh
  dsimp only
  rw [agree.get?]
  cases batch.lastFault with
  | some fault => exact .ends _ {} agree rfl rfl
  | none =>
    cases c.entries.get? l.key with
    | none => exact .ends _ {} agree rfl rfl
    | some link => exact .ends _ { hits := 1 } ⟨agree.settings, agree.batch, agree.links⟩ rfl rfl

private theorem lookInBatch_pace {serial : Nat} (agree : Agree l.key.tableKey c d)
    (registered : c.batches.get? l.key.tableKey = some batch)
    (registered' : d.batches.get? l.key.tableKey = some { batch with serial }) :
    Pace c d m l (c.lookInBatch m l batch) (d.lookInBatch m l { batch with serial }) := by
  unfold lookInBatch
  dsimp only
  by_cases listed : l.key.fileId ∈ batch.fileIds
  · rw [if_neg (not_not_intro listed), if_neg (not_not_intro listed)]
    by_cases moved : l.seen.any (· ≠ batch.generation) = true
    · rw [if_pos moved, if_pos moved]
      exact afterRefresh_pace agree
    · rw [if_neg moved, if_neg moved]
      cases batch.lease.filter (Lease.inForce · m.monotonic) with
      | none => exact .refreshes batch serial registered registered'
      | some lease =>
        simp only [awaitRefresh, agree.settings]
        by_cases late : Seconds.between m.monotonic l.deadline ≤ 0
        · rw [if_pos late]
          exact .ends _ {} agree rfl rfl
        · rw [if_neg late]
          exact .waits _ _ rfl
  · rw [if_pos listed, if_pos listed]
    exact .ends _ {} agree rfl rfl

theorem look_pace (agree : Agree l.key.tableKey c d) : Pace c d m l (c.look m l) (d.look m l) := by
  unfold look
  rw [agree.freshLink?]
  cases c.freshLink? m l.key with
  | error fault => exact .ends _ {} agree rfl rfl
  | ok found =>
    cases found with
    | some link =>
      refine .ends _ { hits := 1 } ⟨agree.settings, agree.batch, ?_⟩ rfl rfl
      rw [linksUnder_touch_own rfl, linksUnder_touch_own rfl]
      exact congrArg (·.touch l.key) agree.links
    | none =>
      cases registered : c.batches.get? l.key.tableKey with
      | none =>
        rw [agree.unregistered registered]
        exact .ends _ {} agree rfl rfl
      | some batch =>
        obtain ⟨serial, registered'⟩ := agree.registered registered
        rw [registered']
        exact lookInBatch_pace agree registered registered'

theorem SideBySide.map {went went' : Cache × α} (side : SideBySide tableKey c d went went') (f : α → β) :
    SideBySide tableKey c d (went.1, f went.2) (went'.1, f went'.2) :=
  ⟨congrArg f side.result, side.agree, side.counts, side.kept, side.size⟩

section Reads

variable {service : Service} {later : List Moment}

theorem readOn_done {result : Except Fault Link} (went : c.look m l = (after, .done result)) :
    readOn service c m l later = (after, some result) := by
  cases later <;> simp only [readOn, went]

theorem readOn_waiting {limit : Seconds} {l' : Lookup} (went : c.look m l = (after, .wait limit l')) :
    readOn service c m l [] = (after, none) := by
  rw [readOn, went]

theorem readOn_waited {limit : Seconds} {l' : Lookup} {next : Moment} (went : c.look m l = (after, .wait limit l')) :
    readOn service c m l (next :: later) = readOn service after next l' later := by
  rw [readOn, went]

theorem readOn_served {issuer : Issuer} (went : c.look m l = c.refreshBatch m l.key batch)
    (served : c.issuerFor batch = some issuer) : readOn service c m l later =
      ((c.attempt m l.key batch (later.headD m) (service issuer batch.table batch.fileIds)).1,
        some (c.attempt m l.key batch (later.headD m) (service issuer batch.table batch.fileIds)).2) := by
  rw [refreshBatch_served served] at went
  cases later <;> simp only [readOn, went] <;> rfl

/-- Without a service the attempt fails at once. -/
theorem readOn_unserved (went : c.look m l = c.refreshBatch m l.key batch) (unserved : c.issuerFor batch = none) :
    readOn service c m l later =
      ((c.attempt m l.key batch m (.error (.credential (.noIssuerForBatch l.key.tableKey)))).1,
        some (c.attempt m l.key batch m (.error (.credential (.noIssuerForBatch l.key.tableKey)))).2) := by
  simp only [refreshBatch, unserved] at went
  exact readOn_done went

/-- Reads go side by side if they do so when they wait. -/
private theorem stretch_sideBySide (agree : Agree l.key.tableKey c d) (roomy : Roomy c (readOn service c m l later).1)
    (room : d.entries.size + (readOn service c m l later).1.entries.size ≤ c.settings.maxEntries + c.entries.size)
    (waits : ∀ limit l', l'.key = l.key → c.look m l = (c, .wait limit l') → d.look m l = (d, .wait limit l') →
      SideBySide l.key.tableKey c d (readOn service c m l later) (readOn service d m l later)) :
    SideBySide l.key.tableKey c d (readOn service c m l later) (readOn service d m l later) := by
  have pace := look_pace (m := m) agree
  generalize went : c.look m l = looked, went' : d.look m l = looked' at pace
  cases pace with
  | waits limit l' own => exact waits limit l' own went went'
  | @ends result added left right agree' counts counts' =>
    have size := look_size c m l
    have size' := look_size d m l
    have kept' := look_evictions d m l
    rw [went] at size
    rw [went'] at size' kept'
    rw [readOn_done went, readOn_done went']
    refine ⟨rfl, agree', ⟨added, counts, counts'⟩, kept', ?_⟩
    dsimp only at size size' ⊢
    omega
  | refreshes batch serial registered registered' =>
    have issuers := agree.issuerFor batch serial
    cases served : c.issuerFor batch with
    | some issuer =>
      rw [readOn_served went served] at roomy room ⊢
      rw [readOn_served went' (issuers.trans served)]
      exact (attempt_sideBySide agree registered registered' roomy room).map some
    | none =>
      rw [readOn_unserved went served] at roomy room ⊢
      rw [readOn_unserved went' (issuers.trans served)]
      exact (attempt_sideBySide agree registered registered' roomy room).map some

theorem readOn_sideBySide (agree : Agree l.key.tableKey c d) (roomy : Roomy c (readOn service c m l later).1)
    (room : d.entries.size + (readOn service c m l later).1.entries.size ≤ c.settings.maxEntries + c.entries.size) :
    SideBySide l.key.tableKey c d (readOn service c m l later) (readOn service d m l later) := by
  induction later generalizing m l with
  | nil =>
    refine stretch_sideBySide agree roomy room fun limit l' own went went' => ?_
    rw [readOn_waiting went, readOn_waiting went']
    exact ⟨rfl, agree, ⟨{}, rfl, rfl⟩, rfl, Nat.add_comm ..⟩
  | cons next later ih =>
    refine stretch_sideBySide agree roomy room fun limit l' own went went' => ?_
    rw [readOn_waited went] at roomy room ⊢
    rw [readOn_waited went']
    rw [← own] at agree ⊢
    exact ih agree roomy room

end Reads

/-- An operation goes the same way in two caches that agree on its batch, if
there is room for its links in both. -/
theorem Operation.run_sideBySide {service : Service} {operation : Operation} (agree : Agree operation.batchKey c d)
    (roomy : Roomy c (operation.run service c).1)
    (room : d.entries.size + (operation.run service c).1.entries.size ≤ c.settings.maxEntries + c.entries.size) :
    SideBySide operation.batchKey c d (operation.run service c) (operation.run service d) := by
  cases operation with
  | register m tableKey table fileIds links refresher =>
    exact (register_sideBySide agree roomy room).map Outcome.registered
  | release tableKey => exact release_sideBySide agree
  | freshLinks m tableKey fileIds =>
    exact {
      result := congrArg Outcome.fresh (agree.freshLinks fileIds)
      agree
      counts := ⟨{}, rfl, rfl⟩
      kept := rfl
      size := Nat.add_comm .. }
  | get m later entry =>
    have begun : d.beginLookup m entry = c.beginLookup m entry := by
      rw [beginLookup, beginLookup, agree.settings]
    have side := (readOn_sideBySide (l := c.beginLookup m entry) agree roomy room).map Outcome.read
    simp only [Operation.run, begun]
    exact side

/-- What two operations come to in either order. -/
structure Swaps (service : Service) (c : Cache) (first second : Operation) : Prop where
  /-- There is room for all links in the other order as well. -/
  roomy : Roomy c (second.run service c).1 ∧
    Roomy (second.run service c).1 (first.run service (second.run service c).1).1
  results : (first.run service (second.run service c).1).2 = (first.run service c).2 ∧
    (second.run service (first.run service c).1).2 = (second.run service c).2
  batches : ∀ key, ((first.run service (second.run service c).1).1.batches.get? key).map Batch.record =
    ((second.run service (first.run service c).1).1.batches.get? key).map Batch.record
  links : ∀ key, linksUnder key (first.run service (second.run service c).1).1.entries =
    linksUnder key (second.run service (first.run service c).1).1.entries
  stats : (first.run service (second.run service c).1).1.stats = (second.run service (first.run service c).1).1.stats

theorem run_swaps {service : Service} {first second : Operation} (different : first.batchKey ≠ second.batchKey)
    (roomy : Roomy c (first.run service c).1)
    (roomy' : Roomy (first.run service c).1 (second.run service (first.run service c).1).1) :
    Swaps service c first second := by
  have touches := first.run_touches service c
  have touches' := second.run_touches service (first.run service c).1
  have swapped := second.run_touches service c
  have swapped' := first.run_touches service (second.run service c).1
  have fits := roomy'.fits
  rw [touches.settings] at fits
  have grown := touches.links.grows roomy.kept
  -- The second operation goes as it does after the first.
  have side := second.run_sideBySide (touches.agree different.symm roomy.kept).symm roomy' (by
    rw [touches.settings]
    omega)
  have size := side.size
  have kept : Roomy c (second.run service c).1 := ⟨by omega, side.kept⟩
  -- And the first goes after the second as it does before.
  have side' := first.run_sideBySide (swapped.agree different kept.kept) roomy (by omega)
  have size' := side'.size
  have kept' : Roomy (second.run service c).1 (first.run service (second.run service c).1).1 := by
    refine ⟨?_, side'.kept⟩
    rw [swapped.settings]
    omega
  have agree (key : String) : Agree key (second.run service (first.run service c).1).1
      (first.run service (second.run service c).1).1 := by
    by_cases ofFirst : key = first.batchKey
    · subst ofFirst
      exact (touches'.agree different roomy'.kept).symm.trans side'.agree
    · have after := swapped'.agree ofFirst kept'.kept
      by_cases ofSecond : key = second.batchKey
      · subst ofSecond
        exact side.agree.trans after
      · have before := (touches.agree ofFirst roomy.kept).trans (touches'.agree ofSecond roomy'.kept)
        exact before.symm.trans ((swapped.agree ofSecond kept.kept).trans after)
  refine ⟨⟨kept, kept'⟩, ⟨side'.result, side.result.symm⟩, fun key => (agree key).batch,
    fun key => (agree key).links, stats_ext ?_ ?_⟩
  · obtain ⟨added, counts, counts'⟩ := side.counts
    obtain ⟨added', countsFirst, countsFirst'⟩ := side'.counts
    rw [countsFirst', counts', counts, countsFirst, Counts.add_right_comm]
  · rw [kept'.kept, kept.kept, roomy'.kept, roomy.kept]

/-- Operations on one batch leave every other batch as it is, and its links as
well unless they store more than there is room for. So operations on different
batches can be swapped as long as all links fit: both end as before, with the
same batches, links and statistics. -/
theorem batches_do_not_interfere (service : Service) (c : Cache) :
    (∀ (operation : Operation) (key : String), key ≠ operation.batchKey → Untouched c key (operation.run service c).1) ∧
    ∀ first second : Operation, first.batchKey ≠ second.batchKey → Roomy c (first.run service c).1 →
      Roomy (first.run service c).1 (second.run service (first.run service c).1).1 → Swaps service c first second := by
  constructor
  · intro operation key other
    exact (operation.run_touches service c).untouched other
  · intro first second different roomy roomy'
    exact run_swaps different roomy roomy'

/-- A file of one table is read, whose link has expired, and a file of the same
name is registered for another table, whose key begins in the same way. -/
theorem read_and_registration_swap :
    let start : Moment := .still 0 0
    let orders : TableReference := ⟨"share", "schema", "orders"⟩
    let service : Service := fun _ table fileIds => .ok (some (.ofList (fileIds.map fun id => (id, ⟨table.name, 100⟩))))
    let expired : Links := .ofList [("part-1", ⟨"old", 0⟩), ("part-2", ⟨"old", 0⟩)]
    let c := (Traffic.run ⟨some ⟨"service"⟩, 0, 10, 10, 60⟩
      [⟨start, .register "orders" orders ["part-1"] expired none⟩]).cache
    let read : Operation := .get start [.still 1 1] ⟨"orders", "part-1"⟩
    let registration : Operation :=
      .register start "orders_2024" orders ["part-1"] (.ofList [("part-1", ⟨"listed", 200⟩)]) none
    Untouched c "orders_2024" (read.run service c).1 ∧ Swaps service c read registration ∧
      (registration.run service (read.run service c).1).1.entries.entries =
        [(⟨"orders", "part-2"⟩, ⟨"old", 0⟩), (⟨"orders", "part-1"⟩, ⟨"orders", 100⟩),
          (⟨"orders_2024", "part-1"⟩, ⟨"listed", 200⟩)] := by
  intro start orders service expired c read registration
  obtain ⟨untouched, swaps⟩ := batches_do_not_interfere service c
  have roomy : Roomy c (read.run service c).1 := ⟨by decide +kernel, by decide +kernel⟩
  have roomy' : Roomy (read.run service c).1 (registration.run service (read.run service c).1).1 :=
    ⟨by decide +kernel, by decide +kernel⟩
  exact ⟨untouched read "orders_2024" (by decide), swaps read registration (by decide) roomy roomy', by decide +kernel⟩

end SharedTables.Cache
