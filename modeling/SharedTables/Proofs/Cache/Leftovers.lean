import SharedTables.Proofs.Cache.Entries
import SharedTables.Proofs.Cache.Singleflight

/-! What becomes of a file that a refresh has skipped. Neither the read that
refreshed nor one that waited looks at the answer: both take whatever link is
left, so the file is refused only when no stale link of it is. -/
namespace SharedTables.Cache

/-- Whether a result is a link that may still be handed out or a failure to obtain one. -/
def Promised (c : Cache) (now : Int) : Except Fault Link → Prop
  | .ok link => c.isFresh link now = true
  | .error fault => ∃ e, fault = .credential e

/-- Whether a file has a link that is fresh. -/
def HasFresh (c : Cache) (key : EntryKey) (now : Int) : Prop :=
  ∃ link, c.entries.get? key = some link ∧ c.isFresh link now = true

/-- Whether a file has a link that is not fresh any more. -/
def HasStale (c : Cache) (key : EntryKey) (now : Int) : Prop :=
  ∃ link, c.entries.get? key = some link ∧ c.isFresh link now = false

/-- Whether a batch lets a read without a fresh link go on: the read takes the
link that is left, waits, or lets a service sign. -/
def GoesOn (c : Cache) (m : Moment) (l : Lookup) (batch : Batch) : Prop :=
  l.key.fileId ∈ batch.fileIds ∧
    if l.seen.any (· ≠ batch.generation) then
      batch.lastFault = none ∧ (c.entries.get? l.key).isSome
    else if (batch.lease.filter (Lease.inForce · m.monotonic)).isSome then
      0 < Seconds.between m.monotonic l.deadline
    else (c.issuerFor batch).isSome

variable {c : Cache} {m : Moment} {now : Int} {l : Lookup}

theorem freshLink?_eq (clock : m.epoch = .ok now) (key : EntryKey) :
    c.freshLink? m key = .ok ((c.entries.get? key).filter (c.isFresh · now)) := by
  unfold freshLink?
  cases c.entries.get? key with
  | none => rfl
  | some link => simp only [clock, Option.filter]

private theorem lookInBatch_kept_iff {batch : Batch} (unfresh : ¬ c.HasFresh l.key now) :
    (∃ result, (c.lookInBatch m l batch).2 = .done result ∧ c.Promised now result) ↔
      ¬ c.GoesOn m l batch := by
  unfold lookInBatch GoesOn
  by_cases listed : l.key.fileId ∈ batch.fileIds
  · simp only [listed, not_true_eq_false, ↓reduceIte, true_and]
    by_cases moved : l.seen.any (· ≠ batch.generation) = true
    · simp only [moved, ↓reduceIte, afterRefresh]
      cases batch.lastFault with
      | some fault => simp [Promised]
      | none =>
        cases left : c.entries.get? l.key with
        | none => simp [Promised]
        | some link =>
          have stale : c.isFresh link now ≠ true := fun fresh => unfresh ⟨link, left, fresh⟩
          simpa [Promised] using stale
    · simp only [moved, Bool.false_eq_true, ↓reduceIte]
      cases batch.lease.filter (Lease.inForce · m.monotonic) with
      | some lease =>
        simp only [awaitRefresh, Option.isSome_some, ↓reduceIte]
        by_cases late : Seconds.between m.monotonic l.deadline ≤ 0
        · simp [late, Promised, Rat.not_lt.mpr late]
        · simp [late, Rat.not_le.mp late]
      | none =>
        simp only [refreshBatch, Option.isSome_none, Bool.false_eq_true, ↓reduceIte]
        cases c.issuerFor batch with
        | some issuer => simp
        | none => simp [refreshFailed, Promised]
  · simp [listed, Promised]

/-- A stretch of a read ends it as promised exactly if its file has a fresh
link or the batch does not let it go on. -/
theorem look_kept_iff (clock : m.epoch = .ok now) :
    (∃ result, (c.look m l).2 = .done result ∧ c.Promised now result) ↔
      c.HasFresh l.key now ∨ ∀ batch, c.batches.get? l.key.tableKey = some batch → ¬ c.GoesOn m l batch := by
  unfold look
  rw [freshLink?_eq clock]
  cases found : (c.entries.get? l.key).filter (c.isFresh · now) with
  | some link =>
    obtain ⟨entry, fresh⟩ := Option.filter_eq_some_iff.mp found
    have has : c.HasFresh l.key now := ⟨link, entry, fresh⟩
    simp [has, Promised, fresh]
  | none =>
    have unfresh : ¬ c.HasFresh l.key now := by
      rintro ⟨link, entry, fresh⟩
      exact Option.filter_eq_none_iff.mp found link entry fresh
    simp only [unfresh, false_or]
    cases c.batches.get? l.key.tableKey with
    | none => simp [Promised]
    | some batch => simpa using lookInBatch_kept_iff unfresh

/-- A read ends as soon as a refresh of its batch has ended during its wait, or
its batch is gone. -/
theorem look_ends (clock : m.epoch = .ok now)
    (moved : ∀ batch, c.batches.get? l.key.tableKey = some batch → l.seen.any (· ≠ batch.generation) = true) :
    ∃ result, (c.look m l).2 = .done result := by
  unfold look
  rw [freshLink?_eq clock]
  cases (c.entries.get? l.key).filter (c.isFresh · now) with
  | some link => exact ⟨_, rfl⟩
  | none =>
    cases registered : c.batches.get? l.key.tableKey with
    | none => exact ⟨_, rfl⟩
    | some batch =>
      simp only [lookInBatch, moved batch registered, ↓reduceIte]
      split <;> exact ⟨_, rfl⟩

namespace Traffic

/-- The sign calls of one read, latest first. -/
def callsOf (t : Traffic) (read : Nat) : List (Nat × SignCall) := t.signCalls.filter (·.1 = read)

/-- A read that has not begun has made no sign call. -/
theorem callsOf_next (settings : CacheSettings) (calls : List Event) :
    (run settings calls).callsOf (run settings calls).reads.length = [] := by
  refine List.filter_eq_nil_iff.mpr fun asked member same => ?_
  obtain ⟨known, -⟩ := spent_run settings calls asked.1 asked.2 member
  rw [of_decide_eq_true same] at known
  exact Nat.lt_irrefl _ known

/-- A read that has ended keeps its result and makes no sign call. -/
theorem Change.ended {t t' : Traffic} (change : Change t m t') {read : Nat}
    (ended : t.reads[read]? = some (.ended result)) :
    t'.reads[read]? = some (.ended result) ∧ t'.callsOf read = t.callsOf read := by
  -- Only reads that wait or for which a service signs are changed.
  have kept {other : Nat} {now next : Stage} (active : t.reads[other]? = some now)
      (running : ∀ result, now ≠ .ended result) :
      other ≠ read ∧ (t.reads.set other next)[read]? = some (.ended result) := by
    have differ : other ≠ read := fun same => by
      rw [same, ended] at active
      exact running result (Option.some.inj active).symm
    exact ⟨differ, (List.getElem?_set_ne differ).trans ended⟩
  cases change with
  | registers | releases | sweeps => exact ⟨ended, rfl⟩
  | begins l unseen =>
    obtain ⟨known, -⟩ := List.getElem?_eq_some_iff.mp ended
    exact ⟨(List.getElem?_append_left known).trans ended, rfl⟩
  | ends other l c result waiting | waits other l batch waiting
  | unserved other l batch c fault result waiting => exact ⟨(kept waiting (by simp)).2, rfl⟩
  | signs other l batch issuer call waiting =>
    obtain ⟨differ, same⟩ := kept waiting (by simp)
    exact ⟨same, by simp [callsOf, differ]⟩
  | answers other call signature signing => exact ⟨(kept signing (by simp)).2, rfl⟩

/-- An event ends a read for good: its result stays, and no service is asked to
sign for it from then on. -/
def EndsWith (settings : CacheSettings) (calls : List Event) (e : Event) (read : Nat)
    (result : Except Fault Link) : Prop :=
  ∀ later, (run settings (later ++ e :: calls)).reads[read]? = some (.ended result) ∧
    (run settings (later ++ e :: calls)).callsOf read = (run settings calls).callsOf read

theorem EndsWith.of_step {settings : CacheSettings} {calls : List Event} {e : Event} {read : Nat}
    (ended : ((run settings calls).step e).reads[read]? = some (.ended result))
    (quiet : ((run settings calls).step e).signCalls = (run settings calls).signCalls) :
    EndsWith settings calls e read result := by
  refine run_keeps (fun t => t.reads[read]? = some (.ended result) ∧
    t.callsOf read = (run settings calls).callsOf read) ⟨ended, congrArg (List.filter _) quiet⟩
    (fun held change => ?_) id
  obtain ⟨kept, same⟩ := change.ended held.1
  exact ⟨kept, same.trans held.2⟩

/-- A stretch that ends a read asks no service. -/
theorem look_done {t : Traffic} {read : Nat} (known : read < t.reads.length)
    (went : t.cache.look m l = (c, .done result)) :
    (t.look m read l).cache = c ∧ (t.look m read l).reads[read]? = some (.ended result) ∧
      (t.look m read l).signCalls = t.signCalls := by
  unfold look
  rw [went]
  exact ⟨rfl, List.getElem?_set_self known, rfl⟩

/-- An answer ends the read that it is for. -/
theorem EndsWith.of_answer {settings : CacheSettings} {calls : List Event} {read : Nat} {call : SignCall}
    (signing : (run settings calls).Signing read call) (m : Moment) (signature : Signature) :
    EndsWith settings calls ⟨m, .answer read signature⟩ read
      ((run settings calls).cache.finishRefresh m call.refresh signature).2 := by
  have answered : (run settings calls).step ⟨m, .answer read signature⟩ =
      (run settings calls).answer m read call.refresh signature := by
    simp only [step, signing]
  obtain ⟨known, -⟩ := List.getElem?_eq_some_iff.mp signing
  refine .of_step ?_ ?_ <;> rw [answered]
  · exact List.getElem?_set_self known
  · rfl

/-- A woken read ends as its next stretch does. -/
theorem wake_ends_iff {settings : CacheSettings} {calls : List Event} {read : Nat} {l : Lookup}
    (waiting : (run settings calls).Waiting read l) :
    EndsWith settings calls ⟨m, .wake read⟩ read result ↔
      ((run settings calls).cache.look m l).2 = .done result := by
  have woken : (run settings calls).step ⟨m, .wake read⟩ = (run settings calls).look m read l := by
    simp only [step, waiting]
  obtain ⟨known, -⟩ := List.getElem?_eq_some_iff.mp waiting
  constructor
  · intro ends
    have ended := (ends []).1
    simp only [List.nil_append, run, woken, look] at ended
    generalize (run settings calls).cache.look m l = went at ended ⊢
    obtain ⟨c, progress⟩ := went
    cases progress <;> simp_all
  · intro went
    obtain ⟨-, ended, quiet⟩ := look_done known (Prod.ext rfl went)
    rw [← woken] at ended quiet
    exact .of_step ended quiet

/-- A read waits for a batch, and during its wait a refresh of that batch has
ended well without a link for the file. -/
inductive PassedOver (settings : CacheSettings) (calls : List Event) (read : Nat) (l : Lookup)
    (batch : Batch) : Prop
  | of (before during after : List Event) (begun finished : Moment) (owner : Nat) (call : SignCall)
      (answer : Option Links)
      (history : calls = after ++ ⟨finished, .answer owner (.ok answer)⟩ ::
        (during ++ ⟨begun, .get l.key⟩ :: before))
      (own : read = (run settings before).reads.length)
      (registered : (run settings (⟨begun, .get l.key⟩ :: before)).cache.batches.get? l.key.tableKey =
        some batch)
      (signing : (run settings (during ++ ⟨begun, .get l.key⟩ :: before)).Signing owner call)
      (refreshes : call.refresh.key.tableKey = l.key.tableKey ∧ call.refresh.serial = batch.serial)
      (succeeded : (run settings (during ++ ⟨begun, .get l.key⟩ :: before)).cache.outcome? finished
        call.refresh (.ok answer) = some none)
      (skipped : (answer.getD .empty).get? l.key.fileId = none)
      (waiting : (run settings calls).Waiting read l)

/-- If the batch has not been registered anew, it still has the file and has
moved on since the read began to wait. -/
theorem PassedOver.moved {settings : CacheSettings} {calls : List Event} {read : Nat}
    (passed : PassedOver settings calls read l batch)
    (still : (run settings calls).cache.batches.get? l.key.tableKey = some batch')
    (same : batch'.serial = batch.serial) :
    l.key.fileId ∈ batch'.fileIds ∧ l.seen.any (· ≠ batch'.generation) = true := by
  obtain ⟨before, during, after, begun, finished, owner, call, answer, rfl, rfl, registered, signing,
    ⟨ofKey, ofBatch⟩, succeeded, -, waiting⟩ := passed
  let start : List Event := ⟨begun, .get l.key⟩ :: before
  let answered : List Event := ⟨finished, .answer owner (.ok answer)⟩ :: (during ++ start)
  have split : after ++ answered = (after ++ ⟨finished, .answer owner (.ok answer)⟩ :: during) ++ start := by
    simp [answered]
  obtain ⟨first, found, listed, -, seen⟩ := get_waiting (split ▸ waiting)
  cases registered.symm.trans found
  refine ⟨run_files_kept registered _ (split ▸ still) same _ listed, ?_⟩
  have ending : (run settings answered).endings =
      ⟨l.key.tableKey, batch.serial, none⟩ :: (run settings (during ++ start)).endings := by
    simp [answered, start, run, step, signing, Traffic.answer, succeeded, ofKey, ofBatch]
  obtain ⟨earlier, grown⟩ := run_endings_grow settings during start
  obtain ⟨later, grown'⟩ := run_endings_grow settings after answered
  -- The generation counts endings, and at least the skipping refresh has ended since.
  have more : ((run settings start).endingsOf l.key.tableKey batch.serial).length <
      ((run settings (after ++ answered)).endingsOf l.key.tableKey batch.serial).length := by
    simp only [endingsOf, grown', ending, grown, List.filter_append, List.filter_cons, and_self, decide_true,
      ↓reduceIte, List.length_append, List.length_cons]
    omega
  have counted := ((ledger_run settings start).batches registered).2.1
  have counted' := ((ledger_run settings (after ++ answered)).batches still).2.1
  rw [same] at counted'
  have differ : batch.generation ≠ batch'.generation := by omega
  simpa [seen] using differ

/-- Such a batch lets the read go on only if it can take a link that is left. -/
theorem PassedOver.goesOn_iff {settings : CacheSettings} {calls : List Event} {read : Nat}
    (passed : PassedOver settings calls read l batch)
    (still : (run settings calls).cache.batches.get? l.key.tableKey = some batch')
    (same : batch'.serial = batch.serial) : (run settings calls).cache.GoesOn m l batch' ↔
      batch'.lastFault = none ∧ ((run settings calls).cache.entries.get? l.key).isSome := by
  obtain ⟨listed, moved⟩ := passed.moved still same
  simp only [GoesOn, listed, moved, ↓reduceIte, true_and]

/-- A read that refreshed its batch and got no link for its file ends with the
link that is left, which was there before, or it is refused. -/
theorem answer_ends {settings : CacheSettings} {calls : List Event} {read : Nat} {call : SignCall}
    {answer : Option Links} (clock : m.epoch = .ok now) (signing : (run settings calls).Signing read call)
    (skipped : (answer.getD .empty).get? call.refresh.key.fileId = none) :
    let e : Event := ⟨m, .answer read (.ok answer)⟩
    let after := (run settings (e :: calls)).cache
    ∃ result, EndsWith settings calls e read result ∧
      (after.Promised now result ↔ ¬ after.HasStale call.refresh.key now) ∧
      ∀ link, after.entries.get? call.refresh.key = some link → result = .ok link ∧
        (run settings calls).cache.entries.get? call.refresh.key = some link := by
  intro e after
  have answered : (run settings calls).step e =
      (run settings calls).answer m read call.refresh (.ok answer) := by
    simp only [step, e, signing]
  have stored : after = ((run settings calls).cache.finishRefresh m call.refresh (.ok answer)).1 :=
    congrArg Traffic.cache answered
  obtain ⟨source, served⟩ := finishRefresh_result (run settings calls).cache call.refresh answer clock
  rw [← stored] at source served
  refine ⟨((run settings calls).cache.finishRefresh m call.refresh (.ok answer)).2, .of_answer signing m _, ?_, ?_⟩
  · rw [served]
    cases left : after.entries.get? call.refresh.key with
    | none => simp [Promised, HasStale, left]
    | some link => simp [Promised, HasStale, left]
  · intro link left
    rw [served, left]
    exact ⟨rfl, by simpa [skipped] using source link left⟩

/-- A file that a refresh has skipped is refused to the read that refreshed and
to those that waited for that refresh, unless a stale link of the file is left.
A read whose batch has been registered anew meanwhile may also start over. -/
theorem skipped_file_is_refused_iff {settings : CacheSettings} {calls : List Event} {m : Moment} {now : Int}
    (clock : m.epoch = .ok now) {read : Nat} :
    (∀ call answer, (run settings calls).Signing read call →
      (answer.getD .empty).get? call.refresh.key.fileId = none →
      let e : Event := ⟨m, .answer read (.ok answer)⟩
      let after := (run settings (e :: calls)).cache
      ∃ result, EndsWith settings calls e read result ∧
        (after.Promised now result ↔ ¬ after.HasStale call.refresh.key now) ∧
        ∀ link, after.entries.get? call.refresh.key = some link → result = .ok link ∧
          (run settings calls).cache.entries.get? call.refresh.key = some link) ∧
    (∀ l batch, PassedOver settings calls read l batch →
      let e : Event := ⟨m, .wake read⟩
      let c := (run settings calls).cache
      ((∀ batch', c.batches.get? l.key.tableKey = some batch' → batch'.serial = batch.serial) →
        ∃ result, EndsWith settings calls e read result ∧
          (c.Promised now result ↔ ¬ (c.HasStale l.key now ∧
            ∃ batch', c.batches.get? l.key.tableKey = some batch' ∧ batch'.lastFault = none))) ∧
      ∀ batch', c.batches.get? l.key.tableKey = some batch' → batch'.serial ≠ batch.serial →
        ((∃ result, EndsWith settings calls e read result ∧ c.Promised now result) ↔
          c.HasFresh l.key now ∨ ¬ c.GoesOn m l batch')) := by
  refine ⟨fun call answer signing skipped => answer_ends clock signing skipped, ?_⟩
  intro l batch passed e c
  have waiting : (run settings calls).Waiting read l := by
    cases passed
    assumption
  have kept := look_kept_iff (c := c) (l := l) clock
  simp only [e, wake_ends_iff waiting]
  constructor
  · intro same
    obtain ⟨result, went⟩ := look_ends clock fun batch' still =>
      (passed.moved still (same batch' still)).2
    refine ⟨result, went, ?_⟩
    have promised : c.Promised now result ↔
        ∃ result', (c.look m l).2 = .done result' ∧ c.Promised now result' := by
      constructor
      · intro held
        exact ⟨result, went, held⟩
      · rintro ⟨result', went', held⟩
        cases went.symm.trans went'
        exact held
    rw [promised, kept]
    constructor
    · rintro (⟨link, entry, fresh⟩ | refused) ⟨⟨link', entry', stale⟩, batch', still, succeeded⟩
      · cases entry.symm.trans entry'
        exact absurd (fresh.symm.trans stale) (by simp)
      · exact refused batch' still
          ((passed.goesOn_iff still (same batch' still)).mpr ⟨succeeded, by simp [c, entry']⟩)
    · intro unstale
      by_cases fresh : c.HasFresh l.key now
      · exact Or.inl fresh
      · refine Or.inr fun batch' still on => ?_
        obtain ⟨succeeded, left⟩ := (passed.goesOn_iff still (same batch' still)).mp on
        obtain ⟨link, entry⟩ := Option.isSome_iff_exists.mp left
        have stale : c.isFresh link now = false :=
          Bool.eq_false_iff.mpr fun still => fresh ⟨link, entry, still⟩
        exact unstale ⟨⟨link, entry, stale⟩, batch', still, succeeded⟩
  · intro batch' still anew
    rw [kept]
    simp [c, still]

/-- With no link left, both the read that refreshed and the one that waited are refused. -/
theorem skipped_file_without_leftover_is_refused :
    let settings : CacheSettings := ⟨some ⟨"service"⟩, 60, 10, 10, 60⟩
    let table : TableReference := ⟨"share", "schema", "orders"⟩
    let moment : Moment := .still 0 0
    let file : EntryKey := ⟨"orders", "part-1"⟩
    let asked : List Event :=
      [⟨moment, .get file⟩, ⟨moment, .get file⟩, ⟨moment, .register "orders" table ["part-1"] .empty none⟩]
    let answer : Event := ⟨moment, .answer 0 (.ok none)⟩
    let after := (run settings (answer :: asked)).cache
    (∃ result, EndsWith settings asked answer 0 result ∧ after.Promised 0 result) ∧
      ∃ result, EndsWith settings (answer :: asked) ⟨moment, .wake 1⟩ 1 result ∧ after.Promised 0 result := by
  intro settings table moment file asked answer after
  have clock : moment.epoch = .ok 0 := rfl
  have signing : (run settings asked).Signing 0 ⟨⟨"service"⟩, ⟨file, 0, 1, table, ["part-1"]⟩, 0⟩ := by
    decide +kernel
  have unstale : ¬ after.HasStale file 0 := by
    have empty : after.entries = .empty := by decide +kernel
    simp [HasStale, empty]
  constructor
  · obtain ⟨result, ends, kept, -⟩ := (skipped_file_is_refused_iff clock).1 _ none signing (by decide)
    exact ⟨result, ends, kept.mpr unstale⟩
  · have refreshed : after.batches.get? "orders" = some ⟨0, table, ["part-1"], none, 1, none, 1, none⟩ := by
      decide +kernel
    have passed : PassedOver settings (answer :: asked) 1 ⟨file, 60, some 0⟩
        ⟨0, table, ["part-1"], none, 1, some ⟨1, 10⟩, 0, none⟩ :=
      .of asked.tail [] [] moment moment 0 _ none rfl (by decide +kernel) (by decide +kernel) signing
        ⟨rfl, rfl⟩ (by decide +kernel) (by decide) (by decide +kernel)
    obtain ⟨result, ends, kept⟩ := ((skipped_file_is_refused_iff clock).2 _ _ passed).1 fun batch' still => by
      cases refreshed.symm.trans still
      rfl
    exact ⟨result, ends, kept.mpr fun stale => unstale stale.1⟩

/-- A stale link that came with the scan is handed out although the refresh has
skipped its file. -/
theorem stale_leftover_is_handed_out :
    let settings : CacheSettings := ⟨some ⟨"service"⟩, 60, 10, 10, 60⟩
    let table : TableReference := ⟨"share", "schema", "orders"⟩
    let moment : Moment := .still 0 0
    let old : Link := ⟨"old", 50⟩
    let asked : List Event :=
      [⟨moment, .get ⟨"orders", "part-1"⟩⟩,
        ⟨moment, .register "orders" table ["part-1"] (.ofList [("part-1", old)]) none⟩]
    let after := run settings (⟨moment, .answer 0 (.ok none)⟩ :: asked)
    (run settings asked).Signing 0 ⟨⟨"service"⟩, ⟨⟨"orders", "part-1"⟩, 0, 1, table, ["part-1"]⟩, 0⟩ ∧
      after.reads[0]? = some (.ended (.ok old)) ∧ ¬ after.cache.Promised 0 (.ok old) := by
  intro settings table moment old asked after
  refine ⟨by decide +kernel, by decide +kernel, ?_⟩
  have stale : after.cache.isFresh old 0 = false := by decide +kernel
  simp [Promised, stale]

/-- A read whose batch was dropped and registered anew while it waited cannot
tell that a refresh has ended, and lets the service sign again. -/
example :
    let settings : CacheSettings := ⟨some ⟨"service"⟩, 60, 10, 10, 60⟩
    let moment : Moment := .still 0 0
    let register : Event := ⟨moment, .register "orders" ⟨"share", "schema", "orders"⟩ ["part-1"] .empty none⟩
    let get : Event := ⟨moment, .get ⟨"orders", "part-1"⟩⟩
    (run settings [⟨moment, .wake 1⟩, register, ⟨moment, .sweep⟩, ⟨moment, .answer 0 (.ok none)⟩,
      ⟨moment, .release "orders"⟩, get, get, register]).signCalls.map Prod.fst = [1, 0] := by
  decide +kernel

end Traffic
end SharedTables.Cache
