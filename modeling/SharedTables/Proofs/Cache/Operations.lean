import SharedTables.Proofs.Cache.FailedRefresh

/-! What callers do with one batch at a time, from the call to its end with
nothing in between. Such an operation leaves the other batches alone, and so it
does their links, unless it stores more of its own than the cache has room for. -/
namespace SharedTables.Cache

variable {c after : Cache} {m : Moment} {tableKey key : String} {entry : EntryKey} {link : Link} {links : Links}
  {entries : OrderedMap EntryKey Link} {s : Stock} {l : Lookup}

/-- The links under a table key, in the order of all links. -/
def linksUnder (tableKey : String) (entries : OrderedMap EntryKey Link) : OrderedMap EntryKey Link :=
  entries.filter fun entry _ => decide (entry.tableKey = tableKey)

theorem get?_linksUnder :
    (linksUnder tableKey entries).get? entry = if entry.tableKey = tableKey then entries.get? entry else none := by
  rw [linksUnder, OrderedMap.get?_filter]
  cases entries.get? entry <;> simp [Option.filter]

theorem linksUnder_touch_own (own : entry.tableKey = tableKey) :
    linksUnder tableKey (entries.touch entry) = (linksUnder tableKey entries).touch entry :=
  OrderedMap.filter_touch (decide_eq_true own)

theorem linksUnder_touch_other (other : entry.tableKey ≠ tableKey) :
    linksUnder tableKey (entries.touch entry) = linksUnder tableKey entries :=
  OrderedMap.filter_touch_of_not (decide_eq_false other)

theorem linksUnder_putLinks_own :
    linksUnder tableKey (putLinks tableKey links entries) = putLinks tableKey links (linksUnder tableKey entries) := by
  unfold putLinks
  induction links.entries generalizing entries with
  | nil => rfl
  | cons p rest ih =>
    rw [List.foldl_cons, ih]
    exact congrArg (List.foldl _ · rest) (OrderedMap.filter_push (decide_eq_true rfl))

theorem linksUnder_putLinks_other (other : key ≠ tableKey) :
    linksUnder key (putLinks tableKey links entries) = linksUnder key entries := by
  unfold putLinks
  induction links.entries generalizing entries with
  | nil => rfl
  | cons p rest ih => exact ih.trans (OrderedMap.filter_push_of_not (decide_eq_false other.symm))

/-- Whether links are stored under a table key, for a read of it if for one. -/
def Stock.IsOf (s : Stock) (tableKey : String) : Prop :=
  s.tableKey = tableKey ∧ ∀ entry ∈ s.requested, entry.tableKey = tableKey

theorem linksUnder_stocked_other (own : s.IsOf tableKey) (other : key ≠ tableKey) :
    linksUnder key (c.stocked s) = linksUnder key c.entries := by
  obtain ⟨owner, links, requested⟩ := s
  obtain ⟨own, requests⟩ := own
  obtain rfl : owner = tableKey := own
  cases requested with
  | none => exact linksUnder_putLinks_other other
  | some entry =>
    have elsewhere : entry.tableKey ≠ key := fun same => other (same.symm.trans (requests entry rfl))
    exact (linksUnder_touch_other elsewhere).trans (linksUnder_putLinks_other other)

/-- Which links are under a key after storing there depends on those before only. -/
theorem linksUnder_stocked_own {d : Cache} (own : s.IsOf tableKey)
    (same : linksUnder tableKey d.entries = linksUnder tableKey c.entries) :
    linksUnder tableKey (d.stocked s) = linksUnder tableKey (c.stocked s) := by
  obtain ⟨owner, links, requested⟩ := s
  obtain ⟨own, requests⟩ := own
  obtain rfl : owner = tableKey := own
  have put : linksUnder owner (putLinks owner links d.entries) = linksUnder owner (putLinks owner links c.entries) := by
    rw [linksUnder_putLinks_own, linksUnder_putLinks_own, same]
  cases requested with
  | none => exact put
  | some entry =>
    simp only [stocked]
    rw [linksUnder_touch_own (requests entry rfl), linksUnder_touch_own (requests entry rfl), put]

/-- Services that answer by what they are asked for only. -/
abbrev Service := Issuer → TableReference → List String → Signature

/-- What a caller does with one batch. A read comes with the clocks at its
beginning and whenever it goes on after a wait or an answer. -/
inductive Operation
  | register (m : Moment) (tableKey : String) (table : TableReference) (fileIds : List String) (links : Links)
      (refresher : Option Issuer)
  | release (tableKey : String)
  | freshLinks (m : Moment) (tableKey : String) (fileIds : List String)
  | get (m : Moment) (later : List Moment) (entry : EntryKey)

/-- What an operation ends with. A read that is still waiting when the clocks
end has no result. -/
inductive Outcome
  | registered (result : Except Fault Unit)
  | released
  | fresh (result : Except Fault Links)
  | read (result : Option (Except Fault Link))

/-- A read that is taken up again as often as there are clocks. -/
def readOn (service : Service) (c : Cache) (m : Moment) (l : Lookup) (later : List Moment) :
    Cache × Option (Except Fault Link) :=
  match c.look m l with
  | (c, .done result) => (c, some result)
  | (c, .sign issuer r) =>
    let ended := c.finishRefresh (later.headD m) r (service issuer r.table r.fileIds)
    (ended.1, some ended.2)
  | (c, .wait _ l) =>
    match later with
    | [] => (c, none)
    | next :: later => readOn service c next l later

/-- The key of the batch that an operation is for. -/
def Operation.batchKey : Operation → String
  | .register _ tableKey .. | .release tableKey | .freshLinks _ tableKey _ => tableKey
  | .get _ _ entry => entry.tableKey

/-- An operation from its call to its end. -/
def Operation.run (service : Service) (c : Cache) : Operation → Cache × Outcome
  | .register m tableKey table fileIds links refresher =>
    let went := c.register m tableKey table fileIds links refresher
    (went.1, .registered went.2)
  | .release tableKey => (c.release tableKey, .released)
  | .freshLinks m tableKey fileIds => (c, .fresh (c.freshLinks m tableKey fileIds))
  | .get m later entry =>
    let went := readOn service c m (c.beginLookup m entry) later
    (went.1, .read went.2)

/-- How an operation on one batch can change the links and the evictions. -/
inductive LinksChange (c : Cache) (tableKey : String) (after : Cache) : Prop
  | kept (entries : after.entries = c.entries) (evictions : after.stats.evictions = c.stats.evictions)
  | touched (entry : EntryKey) (own : entry.tableKey = tableKey) (entries : after.entries = c.entries.touch entry)
      (evictions : after.stats.evictions = c.stats.evictions)
  | stored (m : Moment) (s : Stock) (own : s.IsOf tableKey)
      (entries : after.entries = capped m c.settings.maxEntries (c.stocked s))
      (turnover : after.turnover = c.turnover + c.newcomers s)

/-- What an operation on one batch changes. -/
structure Touches (c : Cache) (tableKey : String) (after : Cache) : Prop where
  settings : after.settings = c.settings
  batches : ∀ key, key ≠ tableKey → after.batches.get? key = c.batches.get? key
  links : LinksChange c tableKey after

/-- What becomes of a batch that an operation is not for. Its links stay unless
some are evicted, and then the operation has left more links than there is room. -/
structure Untouched (c : Cache) (key : String) (after : Cache) : Prop where
  batch : after.batches.get? key = c.batches.get? key
  part : (linksUnder key after.entries).entries.Sublist (linksUnder key c.entries).entries
  links : after.stats.evictions = c.stats.evictions → linksUnder key after.entries = linksUnder key c.entries
  evicted : after.stats.evictions ≠ c.stats.evictions →
    c.settings.maxEntries < after.entries.size + (after.stats.evictions - c.stats.evictions)

/-- The links that were stored are those that are left and those that were evicted. -/
theorem turnover_stored (turnover : after.turnover = c.turnover + c.newcomers s) :
    after.entries.size + after.stats.evictions = (c.stocked s).size + c.stats.evictions := by
  have size := size_stocked c s
  simp only [Cache.turnover] at turnover
  omega

/-- Where nothing is evicted there are not fewer links. -/
theorem LinksChange.grows (change : LinksChange c tableKey after)
    (kept : after.stats.evictions = c.stats.evictions) : c.entries.size ≤ after.entries.size := by
  cases change with
  | kept entries => exact Nat.le_of_eq (by rw [entries])
  | touched entry own entries => exact Nat.le_of_eq (by rw [entries, size_touch])
  | stored m s own entries turnover =>
    have counted := turnover_stored turnover
    have stocked := size_stocked c s
    omega

theorem Touches.untouched (touches : Touches c tableKey after) (other : key ≠ tableKey) : Untouched c key after := by
  have batch := touches.batches key other
  cases touches.links with
  | kept entries evictions =>
    exact ⟨batch, by rw [entries], fun _ => by rw [entries], absurd evictions⟩
  | touched entry own entries evictions =>
    have same : linksUnder key after.entries = linksUnder key c.entries := by
      rw [entries, linksUnder_touch_other (own.trans_ne other.symm)]
    exact ⟨batch, by rw [same], fun _ => same, absurd evictions⟩
  | stored m s own entries turnover =>
    have stocked := linksUnder_stocked_other (c := c) own other
    have counted := turnover_stored turnover
    have part : after.entries.entries.Sublist (c.stocked s).entries := entries ▸ capped_part ..
    refine ⟨batch, ?_, fun same => ?_, fun evicted => Nat.lt_of_not_le fun fits => ?_⟩
    · rw [← stocked]
      exact part.filter _
    · -- Nothing was evicted, so the part that is left is the whole.
      have whole : after.entries = c.stocked s :=
        OrderedMap.entries_inj.mp (part.eq_of_length (by simp only [OrderedMap.size] at counted; omega))
      rw [whole, stocked]
    · have few : (c.stocked s).size ≤ c.settings.maxEntries := by
        have grown := part.length_le
        simp only [OrderedMap.size] at counted grown fits ⊢
        omega
      rw [entries, capped, if_pos few] at counted
      omega

/-- Where a stretch of a read halts. A read that waits has changed nothing, and
one that asks a service has taken the lease. -/
inductive Halts (c : Cache) (m : Moment) (l : Lookup) : Cache × ReadProgress → Prop
  | ends (after : Cache) (result : Except Fault Link) : Halts c m l (after, .done result)
  | waits (limit : Seconds) (l' : Lookup) (own : l'.key = l.key) : Halts c m l (c, .wait limit l')
  | asks (batch : Batch) (issuer : Issuer) :
      Halts c m l ((c.takeLease m l.key batch).1, .sign issuer (c.takeLease m l.key batch).2)

theorem look_halts (c : Cache) (m : Moment) (l : Lookup) : Halts c m l (c.look m l) := by
  have stretch := look_stretch c m l
  generalize c.look m l = went at stretch
  cases stretch with
  | ends => exact .ends ..
  | waits => exact .waits _ _ rfl
  | @refreshes batch registered =>
    cases served : c.issuerFor batch with
    | some issuer =>
      rw [refreshBatch_served served]
      exact .asks batch issuer
    | none =>
      obtain ⟨after, result, fault, refused, -⟩ := refreshBatch_unserved (m := m) registered served
      rw [refused]
      exact .ends after result

theorem look_touches (c : Cache) (m : Moment) (l : Lookup) : Touches c l.key.tableKey (c.look m l).1 := by
  have links : LinksChange c l.key.tableKey (c.look m l).1 := by
    have entries := look_entries c m l
    split at entries
    · exact .touched l.key rfl entries (look_evictions c m l)
    · exact .kept entries (look_evictions c m l)
  have stretch := look_stretch c m l
  generalize c.look m l = went at stretch links
  cases stretch with
  | ends batches settings => exact ⟨settings, fun key _ => by rw [batches], links⟩
  | waits => exact ⟨rfl, fun _ _ => rfl, links⟩
  | @refreshes batch registered =>
    cases served : c.issuerFor batch with
    | some service =>
      rw [refreshBatch_served served] at links ⊢
      exact ⟨rfl, fun key other => by rw [get?_takeLease, if_neg other], links⟩
    | none =>
      obtain ⟨after, result, fault, refused, -, batches, settings, -⟩ :=
        refreshBatch_unserved (m := m) registered served
      rw [refused] at links ⊢
      exact ⟨settings, fun key other => (batches key).trans (if_neg other), links⟩

theorem finishRefresh_touches (c : Cache) (m : Moment) (r : Refresh) (answer : Signature) :
    Touches c r.key.tableKey (c.finishRefresh m r answer).1 := by
  obtain ⟨batches, settings, -⟩ := finishRefresh_spec c m r answer
  refine ⟨settings, fun key other => ?_, ?_⟩
  · rw [batches]
    split
    · exact if_neg other
    · rfl
  · have entries := finishRefresh_entries c m r answer
    cases answer with
    | error fault => exact .kept rfl rfl
    | ok links =>
      refine .stored m ⟨r.key.tableKey, links.getD .empty, some r.key⟩ ⟨rfl, ?_⟩ entries (finishRefresh_turnover ..)
      rintro entry ⟨⟩
      rfl

theorem register_touches (c : Cache) (m : Moment) (tableKey : String) (table : TableReference) (fileIds : List String)
    (links : Links) (refresher : Option Issuer) :
    Touches c tableKey (c.register m tableKey table fileIds links refresher).1 := by
  refine ⟨register_settings, fun key other => get?_register.trans (if_neg other), ?_⟩
  have entries := register_entries c m tableKey table fileIds links refresher
  split at entries
  · rename_i unlinked
    refine .kept entries ?_
    unfold register
    rw [if_pos unlinked]
  · exact .stored m ⟨tableKey, links, none⟩ ⟨rfl, fun _ requests => nomatch requests⟩ entries (register_turnover ..)

/-- A change of links that begins after a step which changed none. -/
theorem LinksChange.after_quiet {between : Cache} (change : LinksChange between tableKey after)
    (settings : between.settings = c.settings) (entries : between.entries = c.entries)
    (evictions : between.stats.evictions = c.stats.evictions) : LinksChange c tableKey after := by
  cases change with
  | kept entries' evictions' => exact .kept (entries'.trans entries) (evictions'.trans evictions)
  | touched entry own entries' evictions' => exact .touched entry own (entries ▸ entries') (evictions'.trans evictions)
  | stored m s own entries' turnover =>
    refine .stored m s own ?_ ?_
    · rw [entries', settings]
      simp only [stocked, entries]
    · rw [turnover]
      simp only [Cache.turnover, newcomers, entries, evictions]

theorem readOn_touches (service : Service) (c : Cache) (m : Moment) (l : Lookup) (later : List Moment) :
    Touches c l.key.tableKey (readOn service c m l later).1 := by
  fun_induction readOn service c m l later with
  | case1 later c m l after result went =>
    have touches := look_touches c m l
    rwa [went] at touches
  | case2 later c m l after issuer r went ended =>
    have halts := look_halts c m l
    rw [went] at halts
    cases halts with
    | asks batch =>
      have finished := finishRefresh_touches (c.takeLease m l.key batch).1 (later.headD m)
        (c.takeLease m l.key batch).2 (service issuer batch.table batch.fileIds)
      exact {
        settings := finished.settings
        batches := fun key other =>
          (finished.batches key other).trans (by rw [get?_takeLease]; exact if_neg other)
        links := finished.links.after_quiet rfl rfl rfl }
  | case3 c m l after limit l' went =>
    have touches := look_touches c m l
    rwa [went] at touches
  | case4 c m l after limit l' went next later ih =>
    have halts := look_halts c m l
    rw [went] at halts
    cases halts with
    | waits _ _ own => rwa [own] at ih

/-- An operation on one batch leaves every other batch as it is. -/
theorem Operation.run_touches (service : Service) (c : Cache) (operation : Operation) :
    Touches c operation.batchKey (operation.run service c).1 := by
  cases operation with
  | register m tableKey table fileIds links refresher => exact register_touches ..
  | release tableKey =>
    exact ⟨rfl, fun key other => get?_release.trans (if_neg other), .kept rfl rfl⟩
  | freshLinks m tableKey fileIds => exact ⟨rfl, fun _ _ => rfl, .kept rfl rfl⟩
  | get m later entry => exact readOn_touches service c m (c.beginLookup m entry) later

namespace Traffic

/-- A read that goes on without others is a history of its own wakes and answer. -/
theorem readOn_steps (service : Service) (m : Moment) (l : Lookup) (later : List Moment) {t : Traffic} {read : Nat}
    (cache : t.cache = c) (known : read < t.reads.length) :
    ∃ events : List Event,
      (events.foldr (fun e t => t.step e) (t.look m read l)).cache = (readOn service c m l later).1 ∧
      ∀ result, (readOn service c m l later).2 = some result →
        (events.foldr (fun e t => t.step e) (t.look m read l)).reads[read]? = some (.ended result) := by
  fun_induction readOn service c m l later generalizing t with
  | case1 later c m l after result went =>
    obtain ⟨now, ended, -⟩ := look_done known (cache ▸ went)
    refine ⟨[], now, ?_⟩
    rintro _ ⟨⟩
    exact ended
  | case2 later c m l after issuer r went =>
    refine ⟨[⟨later.headD m, .answer read (service issuer r.table r.fileIds)⟩], ?_⟩
    have asked : (t.look m read l).cache = after := by rw [look_cache, cache, went]
    obtain ⟨signing, -⟩ := look_signs known (congrArg Prod.snd (cache ▸ went))
    obtain ⟨known, -⟩ := List.getElem?_eq_some_iff.mp signing
    simp only [List.foldr_cons, List.foldr_nil, step, signing, answer, asked]
    refine ⟨rfl, ?_⟩
    rintro _ ⟨⟩
    exact List.getElem?_set_self known
  | case3 c m l after limit l' went =>
    refine ⟨[], ?_, ?_⟩
    · rw [List.foldr_nil, look_cache, cache, went]
    · rintro _ ⟨⟩
  | case4 c m l after limit l' went next later ih =>
    have waits : (t.look m read l).cache = after ∧ (t.look m read l).Waiting read l' := by
      subst cache
      simp only [look, went, Waiting, List.getElem?_set_self known, and_self]
    obtain ⟨same, waiting⟩ := waits
    obtain ⟨known, -⟩ := List.getElem?_eq_some_iff.mp waiting
    obtain ⟨events, history⟩ := ih same known
    refine ⟨events ++ [⟨next, .wake read⟩], ?_⟩
    simpa only [List.foldr_append, List.foldr_cons, List.foldr_nil, step, waiting] using history

end Traffic

/-- An operation is a history of events of its own, so what is reached by
operations is reached by callers. -/
theorem Operation.run_is_history (service : Service) (settings : CacheSettings) (calls : List Event)
    (operation : Operation) : ∃ later,
      (Traffic.run settings (later ++ calls)).cache = (operation.run service (Traffic.run settings calls).cache).1 ∧
      ∀ result, (operation.run service (Traffic.run settings calls).cache).2 = .read (some result) →
        (Traffic.run settings (later ++ calls)).reads[(Traffic.run settings calls).reads.length]? =
          some (.ended result) := by
  cases operation with
  | register m tableKey table fileIds links refresher =>
    exact ⟨[⟨m, .register tableKey table fileIds links refresher⟩], rfl, fun _ other => nomatch other⟩
  | release tableKey => exact ⟨[⟨.still 0 0, .release tableKey⟩], rfl, fun _ other => nomatch other⟩
  | freshLinks m tableKey fileIds => exact ⟨[], rfl, fun _ other => nomatch other⟩
  | get m later entry =>
    let t := Traffic.run settings calls
    let l := t.cache.beginLookup m entry
    have known : t.reads.length < (t.begin l).reads.length := by simp [Traffic.begin]
    obtain ⟨events, cache, ended⟩ := Traffic.readOn_steps service m l later rfl known
    refine ⟨events ++ [⟨m, .get entry⟩], ?_, fun result read => ?_⟩
    · rw [List.append_assoc, Traffic.run_append]
      exact cache
    · rw [List.append_assoc, Traffic.run_append]
      exact ended result (Outcome.read.inj read)

end SharedTables.Cache
