import SharedTables.Proofs.Cache.Capacity
import SharedTables.Proofs.Cache.Holders
import SharedTables.Proofs.Cache.Singleflight

/-! What a refresh does that ends after another read has taken its batch over.
Its token is used up, so no lease is given back in its name. Links have no such
guard: the late answer replaces those of its successor, and also by links that
expire earlier. -/
namespace SharedTables.Cache.Traffic

variable {t t' : Traffic} {m : Moment} {e : Event} {read : Nat} {call : SignCall}

/-- No lease of its batch belongs to a sign call any more, nor ever will. -/
structure LeaseLost (t : Traffic) (call : SignCall) : Prop where
  used : call.refresh.token < t.cache.nextNumber
  others : ∀ serial lease, t.cache.leaseOf call.refresh.key.tableKey = some (serial, lease) →
    lease.token ≠ call.refresh.token

/-- The end of a refresh takes away its own lease only, and none if the clock fails. -/
theorem leaseOf_ended (c : Cache) (m : Moment) (r : Refresh) (signature : Signature) (key : String) :
    (c.finishRefresh m r signature).1.leaseOf key =
      if (c.outcome? m r signature).isSome ∧ key = r.key.tableKey then
        (c.leaseOf key).filter fun held => decide (¬ (held.1 = r.serial ∧ held.2.token = r.token))
      else c.leaseOf key := by
  rw [leaseOf, (finishRefresh_spec c m r signature).1]
  cases c.outcome? m r signature with
  | none => simp [leaseOf]
  | some fault =>
    by_cases mine : key = r.key.tableKey
    · cases found : c.batches.get? key with
      | none => simp [leaseOf, mine, mine ▸ found]
      | some batch =>
        cases held : batch.lease with
        | none => simp [leaseOf, mine, mine ▸ found, Batch.settle, apply_ite Batch.lease, held]
        | some lease =>
          by_cases own : batch.serial = r.serial <;>
            by_cases token : lease.token = r.token <;>
            simp [leaseOf, mine, mine ▸ found, Batch.settle, Option.filter, held, own, token]
    · simp [leaseOf, mine]

theorem LeaseLost.changed (lost : LeaseLost t call) (change : Change t m t') : LeaseLost t' call := by
  refine ⟨Nat.lt_of_lt_of_le lost.used change.numbers_grow, fun serial lease leased => ?_⟩
  cases change with
  | registers => exact lost.others serial lease (leaseOf_register.symm.trans leased)
  | releases => exact lost.others serial lease (leaseOf_release.symm.trans leased)
  | sweeps => exact lost.others serial lease (leaseOf_sweep.symm.trans leased)
  | begins | waits => exact lost.others serial lease leased
  | ends read' l c result waiting batches =>
    exact lost.others serial lease (by simpa [leaseOf, batches] using leased)
  | signs read' l batch issuer call' waiting registered =>
    by_cases mine : call.refresh.key.tableKey = l.key.tableKey
    · simp only [leaseOf, get?_takeLease, mine, registered, ↓reduceIte, Option.map_some, Option.bind_some,
        Option.some.injEq, Prod.mk.injEq] at leased
      obtain ⟨-, rfl⟩ := leased
      exact Nat.ne_of_gt lost.used
    · exact lost.others serial lease (by simpa [leaseOf, mine] using leased)
  | unserved read' l batch c fault result waiting registered free batches =>
    by_cases mine : call.refresh.key.tableKey = l.key.tableKey
    · simp [leaseOf, batches, mine] at leased
    · exact lost.others serial lease (by simpa [leaseOf, batches, mine] using leased)
  | answers read' call' signature =>
    refine lost.others serial lease ?_
    have ended := (leaseOf_ended t.cache m call'.refresh signature _).symm.trans leased
    split at ended
    · exact (Option.filter_eq_some_iff.mp ended).1
    · exact ended

/-- The end of a refresh that has lost its lease leaves the lease of its batch alone. -/
theorem LeaseLost.kept (lost : LeaseLost t call) (signature : Signature) :
    (t.cache.finishRefresh m call.refresh signature).1.leaseOf call.refresh.key.tableKey =
      t.cache.leaseOf call.refresh.key.tableKey := by
  rw [leaseOf_ended]
  split
  · cases leased : t.cache.leaseOf call.refresh.key.tableKey with
    | none => rfl
    | some held =>
      have other := lost.others held.1 held.2 leased
      simp [Option.filter, other]
  · rfl

/-- A read that lets a service sign takes the lease of its batch, with a new token. -/
theorem Change.takes (change : Change t m t') (starts : t'.signCalls = (read, call) :: t.signCalls) :
    call.refresh.token = t.cache.nextNumber ∧
      ∀ serial lease, t'.cache.leaseOf call.refresh.key.tableKey = some (serial, lease) →
        lease.token = call.refresh.token := by
  cases change with
  | registers | releases | sweeps | begins | ends | waits | unserved | answers =>
    exact absurd starts.symm (List.cons_ne_self _ _)
  | signs read' l batch issuer call' waiting registered unmoved free started =>
    obtain ⟨rfl, rfl⟩ := Prod.mk.inj (List.cons.inj starts).1
    subst started
    refine ⟨rfl, fun serial lease leased => ?_⟩
    have own : (t.cache.takeLease m l.key batch).2.key = l.key := rfl
    simp only [leaseOf, own, get?_takeLease, registered, ↓reduceIte, Option.map_some, Option.bind_some,
      Option.some.injEq, Prod.mk.injEq] at leased
    obtain ⟨-, rfl⟩ := leased
    rfl

theorem step_takes (starts : (t.step e).signCalls = (read, call) :: t.signCalls) :
    call.refresh.token = t.cache.nextNumber ∧
      ∀ serial lease, (t.step e).cache.leaseOf call.refresh.key.tableKey = some (serial, lease) →
        lease.token = call.refresh.token := by
  obtain same | change | ⟨l, unseen, change⟩ | ⟨down, same⟩ := step_cases t e
  · rw [same] at starts
    exact absurd starts.symm (List.cons_ne_self _ _)
  · exact change.takes starts
  · exact change.takes (t := t.begin l) starts
  · rw [same] at starts
    exact absurd starts.symm (List.cons_ne_self _ _)

/-- After a history a read still refreshes a batch which another read has taken
over from it, once its lease had expired, and has refreshed well. -/
inductive TakenOver (settings : CacheSettings) (calls : List Event) (read : Nat) (call : SignCall) : Prop
  | of (before during after : List Event) (takeover : Event) (finished : Moment) (other : Nat)
      (successor : SignCall) (answer : Option Links)
      (history : calls = after ++ ⟨finished, .answer other (.ok answer)⟩ :: (during ++ takeover :: before))
      (refreshing : (run settings before).Signing read call)
      (expired : Seconds.later call.started settings.lease ≤ takeover.moment.monotonic)
      (starts : (run settings (takeover :: before)).signCalls = (other, successor) :: (run settings before).signCalls)
      (same_batch : successor.refresh.key.tableKey = call.refresh.key.tableKey ∧
        successor.refresh.serial = call.refresh.serial)
      (signing : (run settings (during ++ takeover :: before)).Signing other successor)
      (succeeded : (run settings (during ++ takeover :: before)).cache.outcome? finished successor.refresh
        (.ok answer) = some none)
      (still : (run settings calls).Signing read call)

variable {settings : CacheSettings} {calls : List Event}

theorem TakenOver.signing (taken : TakenOver settings calls read call) : (run settings calls).Signing read call := by
  cases taken
  assumption

/-- Whatever happens after a takeover, the first read never holds the lease again. -/
theorem TakenOver.leaseLost (taken : TakenOver settings calls read call) : LeaseLost (run settings calls) call := by
  obtain ⟨before, during, after, takeover, finished, other, successor, answer, rfl, refreshing, -, starts,
    ⟨same_key, -⟩, -, -, -⟩ := taken
  have used := ((ledger_run settings before).calls refreshing).2
  obtain ⟨token, leased⟩ := step_takes starts
  have lost : LeaseLost (run settings (takeover :: before)) call := {
    used := Nat.lt_of_lt_of_le used (run_numbers_grow settings [takeover] before)
    others := fun serial lease held same => by
      have new := leased serial lease (same_key ▸ held)
      omega }
  have split : after ++ ⟨finished, .answer other (.ok answer)⟩ :: (during ++ takeover :: before) =
      (after ++ ⟨finished, .answer other (.ok answer)⟩ :: during) ++ takeover :: before := by simp
  rw [split]
  refine run_keeps (fun t => LeaseLost t call) lost LeaseLost.changed (fun lost => ?_) _
  exact ⟨lost.used, fun serial lease leased => by simp [leaseOf, Cache.shutdown] at leased⟩

/-- The link that a service has signed for a file. -/
def signedLink? (signature : Signature) (fileId : String) : Option Link :=
  match signature with
  | .ok links => (links.getD .empty).get? fileId
  | .error _ => none

/-- Whether an event stores more links than fit. -/
def Overflows (t : Traffic) (e : Event) : Prop :=
  ∃ s, t.stocks e = some s ∧ t.cache.settings.maxEntries < (t.cache.stocked s).size

/-- An answer replaces the link of each file that it has a link for, and leaves
the others. Links can only be missing after it if they were too many. -/
theorem answer_replaces {fileId : String} {kept : Link} (m : Moment) (signature : Signature)
    (signing : (run settings calls).Signing read call)
    (held : (run settings calls).cache.entries.get? ⟨call.refresh.key.tableKey, fileId⟩ = some kept) :
    let e : Event := ⟨m, .answer read signature⟩
    let left := (run settings (e :: calls)).cache.entries.get? ⟨call.refresh.key.tableKey, fileId⟩
    (∀ link, left = some link → link = (signedLink? signature fileId).getD kept) ∧
      (¬ (run settings calls).Overflows e → left = some ((signedLink? signature fileId).getD kept)) := by
  intro e left
  cases signature with
  | error fault =>
    have same : left = some kept := by
      simp only [left, e, run, step, signing, answer, finishRefresh_entries]
      exact held
    exact ⟨fun link found => (Option.some.inj (same.symm.trans found)).symm, fun _ => same⟩
  | ok links =>
    let s : Stock := ⟨call.refresh.key.tableKey, links.getD .empty, some call.refresh.key⟩
    have stocks : (run settings calls).stocks e = some s := by simp only [Traffic.stocks, e, signing, s]
    have entries : (run settings (e :: calls)).cache.entries =
        capped m (run settings calls).cache.settings.maxEntries ((run settings calls).cache.stocked s) :=
      step_stocks stocks
    have stocked : ((run settings calls).cache.stocked s).get? ⟨call.refresh.key.tableKey, fileId⟩ =
        some ((signedLink? (.ok links) fileId).getD kept) := by
      rw [get?_stocked, if_pos rfl, held]
      exact Option.or_some
    constructor
    · intro link found
      simp only [left, entries] at found
      exact (Option.some.inj (stocked.symm.trans (get?_of_capped found))).symm
    · intro fits
      have room : ((run settings calls).cache.stocked s).size ≤ (run settings calls).cache.settings.maxEntries :=
        Nat.not_lt.mp fun overflow => fits ⟨s, stocks, overflow⟩
      have all : (run settings (e :: calls)).cache.entries = (run settings calls).cache.stocked s := by
        rw [entries, capped, if_pos room]
      simp only [left, all, stocked]

/-- When a refresh ends after its batch has been taken over, the lease of the
batch stays as it is. A link that is there stays or gives way to the one of the
late answer, whatever its expiration, so exactly those links are replaced by ones
that expire earlier for which the late answer has such a link. -/
theorem late_answer_undoes_iff (taken : TakenOver settings calls read call) (m : Moment) (signature : Signature) :
    let e : Event := ⟨m, .answer read signature⟩
    let before := (run settings calls).cache
    let after := (run settings (e :: calls)).cache
    let tableKey := call.refresh.key.tableKey
    after.leaseOf tableKey = before.leaseOf tableKey ∧
    ∀ fileId kept, before.entries.get? ⟨tableKey, fileId⟩ = some kept →
      let left := after.entries.get? ⟨tableKey, fileId⟩
      ((∃ link, left = some link ∧ link.expiration < kept.expiration) ↔
        left.isSome ∧ ∃ late, signedLink? signature fileId = some late ∧ late.expiration < kept.expiration) ∧
      (¬ (run settings calls).Overflows e → left = some ((signedLink? signature fileId).getD kept)) := by
  intro e before after tableKey
  constructor
  · simp only [after, e, run, step, taken.signing]
    exact taken.leaseLost.kept signature
  · intro fileId kept held left
    obtain ⟨replaced, whole⟩ := answer_replaces m signature taken.signing held
    refine ⟨⟨?_, ?_⟩, whole⟩
    · rintro ⟨link, found, earlier⟩
      refine ⟨by simp [found], ?_⟩
      have same := replaced link found
      cases signed : signedLink? signature fileId with
      | none =>
        rw [signed, Option.getD_none] at same
        rw [same] at earlier
        exact absurd earlier (Int.lt_irrefl _)
      | some late =>
        rw [signed, Option.getD_some] at same
        exact ⟨late, rfl, same ▸ earlier⟩
    · rintro ⟨there, late, signed, earlier⟩
      obtain ⟨link, found⟩ := Option.isSome_iff_exists.mp there
      have same := replaced link found
      rw [signed, Option.getD_some] at same
      exact ⟨link, found, same ▸ earlier⟩

private theorem slow_read_is_taken_over :
    let settings : CacheSettings := ⟨some ⟨"service"⟩, 0, 10, 10, 60⟩
    let table : TableReference := ⟨"share", "schema", "orders"⟩
    let file : EntryKey := ⟨"orders", "part-1"⟩
    let asked : List Event :=
      [⟨.still 0 0, .get file⟩, ⟨.still 0 0, .register "orders" table ["part-1"] .empty none⟩]
    let signed : Signature := .ok (some (.ofList [("part-1", ⟨"new", 300⟩)]))
    let calls : List Event := ⟨.still 0 21, .answer 1 signed⟩ :: ⟨.still 0 20, .get file⟩ :: asked
    TakenOver settings calls 0 ⟨⟨"service"⟩, ⟨file, 0, 1, table, ["part-1"]⟩, 0⟩ := by
  intro settings table file asked signed calls
  let second : SignCall := ⟨⟨"service"⟩, ⟨file, 0, 2, table, ["part-1"]⟩, 20⟩
  exact .of asked [] [] ⟨.still 0 20, .get file⟩ (.still 0 21) 1 second _ rfl (by decide +kernel) (by decide +kernel)
    (by decide +kernel) ⟨rfl, rfl⟩ (by decide +kernel) (by decide +kernel) (by decide +kernel)

/-- A late answer with a link that expires later does no harm. -/
theorem later_link_may_replace_takeover :
    let settings : CacheSettings := ⟨some ⟨"service"⟩, 0, 10, 10, 60⟩
    let table : TableReference := ⟨"share", "schema", "orders"⟩
    let file : EntryKey := ⟨"orders", "part-1"⟩
    let asked : List Event :=
      [⟨.still 0 0, .get file⟩, ⟨.still 0 0, .register "orders" table ["part-1"] .empty none⟩]
    let signed (url : String) (expiration : Int) : Signature := .ok (some (.ofList [("part-1", ⟨url, expiration⟩)]))
    let calls : List Event := ⟨.still 0 21, .answer 1 (signed "new" 300)⟩ :: ⟨.still 0 20, .get file⟩ :: asked
    let late : Event := ⟨.still 0 25, .answer 0 (signed "late" 400)⟩
    (run settings calls).cache.entries.get? file = some ⟨"new", 300⟩ ∧
      ¬ ∃ link, (run settings (late :: calls)).cache.entries.get? file = some link ∧ link.expiration < 300 := by
  intro settings table file asked signed calls late
  have held : (run settings calls).cache.entries.get? file = some ⟨"new", 300⟩ := by decide +kernel
  obtain ⟨-, links⟩ := late_answer_undoes_iff slow_read_is_taken_over (.still 0 25) (signed "late" 400)
  refine ⟨held, fun undone => ?_⟩
  obtain ⟨-, link, answered, earlier⟩ := (links "part-1" _ held).1.mp undone
  cases answered
  exact absurd earlier (by decide)

/-- The link of the takeover is replaced by one that expires earlier. -/
theorem late_answer_undoes_takeover :
    let settings : CacheSettings := ⟨some ⟨"service"⟩, 0, 10, 10, 60⟩
    let table : TableReference := ⟨"share", "schema", "orders"⟩
    let file : EntryKey := ⟨"orders", "part-1"⟩
    let asked : List Event :=
      [⟨.still 0 0, .get file⟩, ⟨.still 0 0, .register "orders" table ["part-1"] .empty none⟩]
    let signed (url : String) (expiration : Int) : Signature := .ok (some (.ofList [("part-1", ⟨url, expiration⟩)]))
    let calls : List Event := ⟨.still 0 21, .answer 1 (signed "new" 300)⟩ :: ⟨.still 0 20, .get file⟩ :: asked
    let late : Event := ⟨.still 0 25, .answer 0 (signed "late" 100)⟩
    TakenOver settings calls 0 ⟨⟨"service"⟩, ⟨file, 0, 1, table, ["part-1"]⟩, 0⟩ ∧
      (run settings calls).cache.entries.get? file = some ⟨"new", 300⟩ ∧
      (run settings (late :: calls)).cache.entries.get? file = some ⟨"late", 100⟩ :=
  ⟨slow_read_is_taken_over, by decide +kernel, by decide +kernel⟩

end SharedTables.Cache.Traffic
