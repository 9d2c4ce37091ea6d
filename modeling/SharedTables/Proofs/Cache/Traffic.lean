import Mathlib.Control.Monad.Basic
import SharedTables.Proofs.Cache.Batches

/-! A cache used by many callers. Calls of different callers may fall between
any two stretches of a read, so a history is any list of calls; reads that
wait or let a service sign are kept until they are taken up again. -/
namespace SharedTables.Cache

/-- What a caller or a service does to a cache. -/
inductive Call
  | register (tableKey : String) (table : TableReference) (fileIds : List String) (links : Links)
      (refresher : Option Issuer)
  | release (tableKey : String)
  | get (key : EntryKey)
  /-- A waiting read looks again, because a refresh ended or its time is over. -/
  | wake (read : Nat)
  /-- A service answers a read. -/
  | answer (read : Nat) (signature : Signature)
  | sweep
  | shutdown

/-- A call and the clocks when it is made. -/
structure Event where
  moment : Moment
  call : Call

/-- A service signs for a read. -/
structure SignCall where
  issuer : Issuer
  refresh : Refresh
  started : Seconds
  deriving DecidableEq

/-- How far a read has come. -/
inductive Stage
  | waiting (lookup : Lookup)
  | signing (call : SignCall)
  | ended (result : Except Fault Link)
  deriving DecidableEq

/-- The end of a refresh of a batch. -/
structure Ending where
  tableKey : String
  serial : Nat
  fault : Option Fault
  deriving DecidableEq

/-- A cache with its reads, numbered as they began, and what has happened so
far, latest first. -/
structure Traffic where
  cache : Cache
  reads : List Stage
  signCalls : List (Nat × SignCall)
  endings : List Ending

namespace Traffic

/-- The ending that a stretch of a read brings about itself: a refresh that no
service can be asked for is counted as failed at once. -/
def unserved (before after : Cache) (tableKey : String) : List Ending :=
  if after.stats.refreshFailures = before.stats.refreshFailures then []
  else
    (before.batches.get? tableKey).toList.map fun batch =>
      ⟨tableKey, batch.serial, some (.credential (.noIssuerForBatch tableKey))⟩

/-- A read that begins. -/
def begin (t : Traffic) (l : Lookup) : Traffic := { t with reads := t.reads ++ [.waiting l] }

/-- A stretch of a read. -/
def look (t : Traffic) (m : Moment) (read : Nat) (l : Lookup) : Traffic :=
  match t.cache.look m l with
  | (c, .done result) =>
    { t with
      cache := c
      reads := t.reads.set read (.ended result)
      endings := unserved t.cache c l.key.tableKey ++ t.endings }
  | (c, .wait _ lookup) => { t with cache := c, reads := t.reads.set read (.waiting lookup) }
  | (c, .sign issuer refresh) =>
    let call : SignCall := ⟨issuer, refresh, m.monotonic⟩
    { t with
      cache := c
      reads := t.reads.set read (.signing call)
      signCalls := (read, call) :: t.signCalls }

/-- The end of a sign call, and with it of a read. -/
def answer (t : Traffic) (m : Moment) (read : Nat) (r : Refresh) (signature : Signature) : Traffic :=
  { t with
    cache := (t.cache.finishRefresh m r signature).1
    reads := t.reads.set read (.ended (t.cache.finishRefresh m r signature).2)
    endings := (t.cache.outcome? m r signature).toList.map (⟨r.key.tableKey, r.serial, ·⟩) ++ t.endings }

/-- One call. A read that is not waiting cannot be woken, and one that is not
signing cannot be answered. -/
def step (t : Traffic) (e : Event) : Traffic :=
  match e.call with
  | .register tableKey table fileIds links refresher =>
    { t with cache := (t.cache.register e.moment tableKey table fileIds links refresher).1 }
  | .release tableKey => { t with cache := t.cache.release tableKey }
  | .get key =>
    let lookup := t.cache.beginLookup e.moment key
    (t.begin lookup).look e.moment t.reads.length lookup
  | .wake read =>
    match t.reads[read]? with
    | some (.waiting lookup) => t.look e.moment read lookup
    | _ => t
  | .answer read signature =>
    match t.reads[read]? with
    | some (.signing call) => t.answer e.moment read call.refresh signature
    | _ => t
  | .sweep => { t with cache := (t.cache.sweep e.moment).1 }
  | .shutdown => { t with cache := t.cache.shutdown }

/-- A new cache after a history, whose latest event comes first. -/
def run (settings : CacheSettings) : List Event → Traffic
  | [] => ⟨.new settings, [], [], []⟩
  | e :: earlier => (run settings earlier).step e

theorem run_append (settings : CacheSettings) (later earlier : List Event) :
    run settings (later ++ earlier) = later.foldr (fun e t => t.step e) (run settings earlier) := by
  induction later with
  | nil => rfl
  | cons e later ih => rw [List.cons_append, run, ih, List.foldr_cons]

theorem look_cache (t : Traffic) (m : Moment) (read : Nat) (l : Lookup) :
    (t.look m read l).cache = (t.cache.look m l).1 := by
  unfold look
  generalize t.cache.look m l = went
  obtain ⟨c, progress⟩ := went
  cases progress <;> rfl

/-- Whether a read waits. -/
abbrev Waiting (t : Traffic) (read : Nat) (l : Lookup) : Prop := t.reads[read]? = some (.waiting l)

/-- Whether a service signs for a read. -/
abbrev Signing (t : Traffic) (read : Nat) (call : SignCall) : Prop :=
  t.reads[read]? = some (.signing call)

theorem Signing.of_set {reads : List Stage} {read other : Nat} {call : SignCall}
    (signing : (reads.set read stage)[other]? = some (.signing call)) :
    other = read ∧ stage = .signing call ∨ reads[other]? = some (.signing call) := by
  rw [List.getElem?_set] at signing
  grind

theorem Signing.of_set_quiet {reads : List Stage} {read other : Nat} {call : SignCall}
    (quiet : ∀ call, stage ≠ .signing call)
    (signing : (reads.set read stage)[other]? = some (.signing call)) :
    reads[other]? = some (.signing call) :=
  (Signing.of_set signing).resolve_left fun new => quiet call new.2

theorem Waiting.of_set {reads : List Stage} {read other : Nat} {l : Lookup}
    (waiting : (reads.set read stage)[other]? = some (.waiting l)) :
    other = read ∧ stage = .waiting l ∨ reads[other]? = some (.waiting l) := by
  rw [List.getElem?_set] at waiting
  grind

theorem Signing.of_begin {t : Traffic} {read : Nat} (signing : (t.begin l).Signing read call) :
    t.Signing read call := by
  rw [Signing, begin, List.getElem?_append] at signing
  grind

/-- The changes that an event other than a shutdown can make. A new read is one
change, and its first stretch is another. -/
inductive Change (t : Traffic) (m : Moment) : Traffic → Prop
  | registers (tableKey table fileIds links refresher) :
      Change t m { t with cache := (t.cache.register m tableKey table fileIds links refresher).1 }
  | releases (tableKey) : Change t m { t with cache := t.cache.release tableKey }
  | sweeps : Change t m { t with cache := (t.cache.sweep m).1 }
  | begins (l : Lookup) (unseen : l.seen = none) : Change t m (t.begin l)
  | ends (read : Nat) (l : Lookup) (c : Cache) (result) (waiting : t.Waiting read l)
      (batches : c.batches = t.cache.batches) (settings : c.settings = t.cache.settings)
      (nextNumber : c.nextNumber = t.cache.nextNumber) :
      Change t m { t with cache := c, reads := t.reads.set read (.ended result) }
  | waits (read : Nat) (l : Lookup) (batch : Batch) (waiting : t.Waiting read l)
      (registered : t.cache.batches.get? l.key.tableKey = some batch) :
      Change t m { t with
        reads := t.reads.set read (.waiting { l with seen := l.seen.or (some batch.generation) }) }
  | signs (read : Nat) (l : Lookup) (batch : Batch) (issuer) (call : SignCall)
      (waiting : t.Waiting read l) (registered : t.cache.batches.get? l.key.tableKey = some batch)
      (unmoved : ∀ seen ∈ l.seen, seen = batch.generation)
      (free : ∀ lease ∈ batch.lease, lease.expires ≤ m.monotonic)
      (started : call = ⟨issuer, (t.cache.takeLease m l.key batch).2, m.monotonic⟩) :
      Change t m
        { cache := (t.cache.takeLease m l.key batch).1
          reads := t.reads.set read (.signing call)
          signCalls := (read, call) :: t.signCalls
          endings := t.endings }
  | unserved (read : Nat) (l : Lookup) (batch : Batch) (c : Cache) (fault result)
      (waiting : t.Waiting read l) (registered : t.cache.batches.get? l.key.tableKey = some batch)
      (free : ∀ lease ∈ batch.lease, lease.expires ≤ m.monotonic)
      (batches : ∀ key, c.batches.get? key = if key = l.key.tableKey then
        some { batch with lease := none, generation := batch.generation + 1, lastFault := some fault }
        else t.cache.batches.get? key)
      (settings : c.settings = t.cache.settings) (nextNumber : c.nextNumber = t.cache.nextNumber + 1) :
      Change t m
        { t with
          cache := c
          reads := t.reads.set read (.ended result)
          endings := ⟨l.key.tableKey, batch.serial, some fault⟩ :: t.endings }
  | answers (read : Nat) (call : SignCall) (signature : Signature) (signing : t.Signing read call) :
      Change t m (t.answer m read call.refresh signature)

theorem look_change {t : Traffic} {m : Moment} {read : Nat} (waiting : t.Waiting read l) :
    Change t m (t.look m read l) := by
  unfold look
  have stretch := look_stretch t.cache m l
  generalize t.cache.look m l = went at stretch
  cases stretch with
  | ends batches settings nextNumber failures =>
    simpa [Traffic.unserved, failures] using Change.ends _ _ _ _ waiting batches settings nextNumber
  | waits registered listed => exact .waits _ _ _ waiting registered
  | @refreshes batch registered unmoved free =>
    cases served : t.cache.issuerFor batch with
    | some issuer =>
      rw [refreshBatch_served served]
      exact .signs _ _ _ issuer _ waiting registered unmoved free rfl
    | none =>
      obtain ⟨c, result, fault, refused, rfl, batches, settings, nextNumber, failures⟩ :=
        refreshBatch_unserved (m := m) registered served
      rw [refused]
      simpa [Traffic.unserved, failures, registered] using
        Change.unserved _ _ _ _ _ _ waiting registered free batches settings nextNumber

/-- An event makes no change, one, or two when a read begins; or it is a shutdown. -/
theorem step_cases (t : Traffic) (e : Event) : t.step e = t ∨ Change t e.moment (t.step e) ∨
    (∃ l, l.seen = none ∧ Change (t.begin l) e.moment (t.step e)) ∨
      e.call = .shutdown ∧ t.step e = { t with cache := t.cache.shutdown } := by
  obtain ⟨m, call⟩ := e
  cases call with
  | register tableKey table fileIds links refresher => exact Or.inr (Or.inl (.registers ..))
  | release tableKey => exact Or.inr (Or.inl (.releases _))
  | get key =>
    exact Or.inr (Or.inr (Or.inl ⟨_, rfl, look_change (t := t.begin _) List.getElem?_concat_length⟩))
  | wake read =>
    simp only [step]
    split
    · rename_i lookup waiting
      exact Or.inr (Or.inl (look_change waiting))
    · exact Or.inl rfl
  | answer read signature =>
    simp only [step]
    split
    · rename_i call signing
      exact Or.inr (Or.inl (.answers _ _ _ signing))
    · exact Or.inl rfl
  | sweep => exact Or.inr (Or.inl .sweeps)
  | shutdown => exact Or.inr (Or.inr (Or.inr ⟨rfl, rfl⟩))

/-- What every change keeps, and a shutdown where there is one, every event keeps. -/
theorem step_keeps (holds : Traffic → Prop) {t : Traffic} {e : Event} (held : holds t)
    (kept : ∀ {t t' : Traffic}, holds t → Change t e.moment t' → holds t')
    (shut : e.call = .shutdown → holds { t with cache := t.cache.shutdown }) : holds (t.step e) := by
  obtain same | change | ⟨l, unseen, change⟩ | ⟨down, same⟩ := step_cases t e
  · rwa [same]
  · exact kept held change
  · exact kept (kept held (.begins l unseen)) change
  · rw [same]
    exact shut down

/-- What every change and a shutdown keep stays as callers go on. -/
theorem run_keeps (holds : Traffic → Prop) {settings : CacheSettings} {earlier : List Event}
    (held : holds (run settings earlier))
    (kept : ∀ {m : Moment} {t t' : Traffic}, holds t → Change t m t' → holds t')
    (shut : ∀ {t : Traffic}, holds t → holds { t with cache := t.cache.shutdown }) (later : List Event) :
    holds (run settings (later ++ earlier)) := by
  induction later with
  | nil => exact held
  | cons e later ih => exact step_keeps holds ih kept fun _ => shut ih

/-- What holds of a new cache and is kept by every change and a shutdown holds
after every history. -/
theorem run_holds (holds : Traffic → Prop) {settings : CacheSettings} (start : holds (run settings []))
    (kept : ∀ {m : Moment} {t t' : Traffic}, holds t → Change t m t' → holds t')
    (shut : ∀ {t : Traffic}, holds t → holds { t with cache := t.cache.shutdown }) (calls : List Event) :
    holds (run settings calls) := by
  have kept := run_keeps holds start kept shut calls
  rwa [List.append_nil] at kept

end Traffic
end SharedTables.Cache
