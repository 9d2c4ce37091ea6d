import SharedTables.Proofs.Cache.Leftovers
import SharedTables.Proofs.Cache.Orphans

/-! Files that no scan has registered. No service is ever asked to sign them, but
a link is stored for whatever file it comes for, and a read looks for a fresh
link before it looks at the files of the batch. So such a file is refused unless
a link of it came unasked. -/
namespace SharedTables.Cache

variable {c : Cache} {m : Moment} {now : Int} {key : EntryKey} {link : Link} {l : Lookup}

/-- Why a file is refused that its batch does not have. -/
def refusal (c : Cache) (key : EntryKey) : CredentialError :=
  if (c.batches.get? key.tableKey).isSome then .notInBatch key.fileId key.tableKey else .unknownBatch key.tableKey

/-- What a read of a file ends with that its batch does not have: a fresh link
is found all the same. -/
def unlistedResult (c : Cache) (m : Moment) (key : EntryKey) : Except Fault Link :=
  match c.freshLink? m key with
  | .error fault => .error fault
  | .ok (some link) => .ok link
  | .ok none => .error (.credential (c.refusal key))

theorem unlistedResult_fresh (clock : m.epoch = .ok now) (held : c.entries.get? key = some link)
    (fresh : c.isFresh link now = true) : c.unlistedResult m key = .ok link := by
  have found : (c.entries.get? key).filter (c.isFresh · now) = some link :=
    Option.filter_eq_some_iff.mpr ⟨held, fresh⟩
  rw [unlistedResult, freshLink?_eq clock, found]

theorem unlistedResult_refused_iff (clock : m.epoch = .ok now) :
    c.unlistedResult m key = .error (.credential (c.refusal key)) ↔ ¬ c.HasFresh key now := by
  constructor
  · rintro refused ⟨link, held, fresh⟩
    rw [unlistedResult_fresh clock held fresh] at refused
    cases refused
  · intro unfresh
    have nothing : (c.entries.get? key).filter (c.isFresh · now) = none :=
      Option.filter_eq_none_iff.mpr fun link held fresh => unfresh ⟨link, held, fresh⟩
    rw [unlistedResult, freshLink?_eq clock, nothing]

theorem look_unlisted
    (unlisted : ∀ batch, c.batches.get? l.key.tableKey = some batch → l.key.fileId ∉ batch.fileIds) :
    (c.look m l).2 = .done (c.unlistedResult m l.key) := by
  unfold look unlistedResult refusal
  cases c.freshLink? m l.key with
  | error fault => rfl
  | ok found =>
    cases found with
    | some link => rfl
    | none =>
      cases registered : c.batches.get? l.key.tableKey with
      | none => rfl
      | some batch => simp [lookInBatch, unlisted batch registered]

namespace Traffic

variable {settings : CacheSettings} {calls : List Event} {t : Traffic} {e : Event} {read : Nat} {call : SignCall}
  {tableKey fileId : String}

theorem mem_registeredIds (listed : fileId ∈ registeredIds settings tableKey calls) :
    ∃ e ∈ calls, fileId ∈ idsFor tableKey e := by
  induction calls with
  | nil => cases listed
  | cons e earlier ih =>
    have earlier_or_now : fileId ∈ registeredIds settings tableKey earlier ∨ fileId ∈ idsFor tableKey e := by
      rw [registeredIds] at listed
      split at listed
      · exact List.mem_append.mp listed
      · exact Or.inr listed
    obtain before | now := earlier_or_now
    · obtain ⟨e', member, registered⟩ := ih before
      exact ⟨e', List.mem_cons_of_mem _ member, registered⟩
    · exact ⟨e, List.mem_cons_self, now⟩

/-- The files of a batch have been registered for it. -/
theorem batch_files_registered {batch : Batch}
    (found : (run settings calls).cache.batches.get? tableKey = some batch) (listed : fileId ∈ batch.fileIds) :
    ∃ e ∈ calls, fileId ∈ idsFor tableKey e := by
  rw [fileIds_run settings calls found, Text.mem_distinctSorted] at listed
  exact mem_registeredIds listed

/-- A service is only asked to sign files that have been registered. -/
theorem asked_files_registered (signing : (run settings calls).Signing read call)
    (asked : fileId ∈ call.refresh.fileIds) : ∃ e ∈ calls, fileId ∈ idsFor call.refresh.key.tableKey e := by
  induction calls with
  | nil => cases signing
  | cons e earlier ih =>
    have before : ∃ e' ∈ earlier, fileId ∈ idsFor call.refresh.key.tableKey e' := by
      obtain still | starts := signing.of_step
      · exact ih still
      · obtain ⟨l, batch, issuer, -, registered, -, -, rfl⟩ := step_starts starts
        exact batch_files_registered registered asked
    obtain ⟨e', member, registered⟩ := before
    exact ⟨e', List.mem_cons_of_mem _ member, registered⟩

/-- A link comes for a file that it was not asked for: together with a scan that
does not have the file, or from a service that was asked to sign others. -/
inductive Unasked (t : Traffic) (key : EntryKey) (link : Link) : Event → Prop
  | registered (m : Moment) (table : TableReference) (fileIds : List String) (links : Links)
      (refresher : Option Issuer) (unlisted : key.fileId ∉ fileIds)
      (came : links.get? key.fileId = some link) :
      Unasked t key link ⟨m, .register key.tableKey table fileIds links refresher⟩
  | signed (m : Moment) (read : Nat) (call : SignCall) (answer : Option Links) (signing : t.Signing read call)
      (same_batch : call.refresh.key.tableKey = key.tableKey) (unlisted : key.fileId ∉ call.refresh.fileIds)
      (came : (answer.getD .empty).get? key.fileId = some link) :
      Unasked t key link ⟨m, .answer read (.ok answer)⟩

/-- A link of a file that was never registered came unasked. -/
theorem unlisted_link_came_unasked (never : ∀ e ∈ calls, key.fileId ∉ idsFor key.tableKey e)
    (held : (run settings calls).cache.entries.get? key = some link) :
    ∃ later e earlier, calls = later ++ e :: earlier ∧ Unasked (run settings earlier) key link e := by
  induction calls with
  | nil => cases held
  | cons e earlier ih =>
    obtain ⟨unlisted, before⟩ := List.forall_mem_cons.mp never
    obtain old | ⟨s, stored, same, came⟩ := step_link held
    · obtain ⟨later, e', first, rfl, unasked⟩ := ih before old
      exact ⟨e :: later, e', first, rfl, unasked⟩
    · refine ⟨[], e, earlier, rfl, ?_⟩
      obtain ⟨m, act⟩ := e
      rcases stocks_cases stored with
        ⟨tableKey, table, fileIds, links, refresher, rfl, -, rfl⟩ | ⟨read, links, call, rfl, signing, rfl⟩
      · cases same
        have absent : key.fileId ∉ fileIds := by simpa [idsFor] using unlisted
        exact .registered m table fileIds links refresher absent came
      · have same : call.refresh.key.tableKey = key.tableKey := same
        refine .signed m read call links signing same (fun asked => ?_) came
        obtain ⟨e', member, registered⟩ := asked_files_registered signing asked
        rw [same] at registered
        exact before e' member registered

/-- A read of a file that was never registered ends at once, whatever is stored. -/
theorem get_unlisted (settings : CacheSettings) (never : ∀ e ∈ calls, key.fileId ∉ idsFor key.tableKey e) (m : Moment) :
    EndsWith settings calls ⟨m, .get key⟩ (run settings calls).reads.length
      ((run settings calls).cache.unlistedResult m key) := by
  let t := run settings calls
  have went : (t.cache.look m (t.cache.beginLookup m key)).2 = .done (t.cache.unlistedResult m key) :=
    look_unlisted fun batch registered listed => by
      obtain ⟨e, member, registered⟩ := batch_files_registered registered listed
      exact never e member registered
  have known : t.reads.length < (t.begin (t.cache.beginLookup m key)).reads.length := by simp [begin]
  obtain ⟨-, ended, quiet⟩ := look_done (t := t.begin (t.cache.beginLookup m key)) known (Prod.ext rfl went)
  exact .of_step ended quiet

/-- A read of a file that was never registered for its table makes no sign call.
It is refused exactly if no fresh link of the file is there, and such a link can
only have come unasked; a clock that fails is only read when there is a link. -/
theorem unregistered_file_is_refused_iff {settings : CacheSettings} {calls : List Event} {key : EntryKey}
    (never : ∀ e ∈ calls, key.fileId ∉ idsFor key.tableKey e) (m : Moment) :
    let c := (run settings calls).cache
    let read := (run settings calls).reads.length
    let refused : Except Fault Link := .error (.credential (c.refusal key))
    ∃ result, EndsWith settings calls ⟨m, .get key⟩ read result ∧
      (∀ later, (run settings (later ++ ⟨m, .get key⟩ :: calls)).callsOf read = []) ∧
      (∀ now, m.epoch = .ok now → (result = refused ↔ ¬ c.HasFresh key now) ∧
        ∀ link, c.entries.get? key = some link → c.isFresh link now = true → result = .ok link) ∧
      (∀ fault, m.epoch = .error fault →
        result = if (c.entries.get? key).isSome then .error fault else refused) ∧
      ∀ link, c.entries.get? key = some link →
        ∃ later e earlier, calls = later ++ e :: earlier ∧ Unasked (run settings earlier) key link e := by
  intro c read refused
  have ends := get_unlisted settings never m
  refine ⟨_, ends, fun later => (ends later).2.trans (callsOf_next settings calls), fun now clock => ?_,
    fun fault clock => ?_, fun link => unlisted_link_came_unasked never⟩
  · exact ⟨unlistedResult_refused_iff clock, fun link held fresh => unlistedResult_fresh clock held fresh⟩
  · simp only [unlistedResult, freshLink?, clock]
    cases c.entries.get? key <;> rfl

/-- A service signs the registered file only, and the other file is refused. -/
theorem unregistered_file_is_refused :
    let settings : CacheSettings := ⟨some ⟨"service"⟩, 0, 10, 10, 60⟩
    let moment : Moment := .still 0 0
    let calls : List Event :=
      [⟨moment, .answer 0 (.ok (some (.ofList [("part-1", ⟨"signed", 50⟩)])))⟩, ⟨moment, .get ⟨"orders", "part-1"⟩⟩,
        ⟨moment, .register "orders" ⟨"share", "schema", "orders"⟩ ["part-1"] .empty none⟩]
    EndsWith settings calls ⟨moment, .get ⟨"orders", "part-2"⟩⟩ (run settings calls).reads.length
      (.error (.credential (.notInBatch "part-2" "orders"))) := by
  intro settings moment calls
  have never : ∀ e ∈ calls, "part-2" ∉ idsFor "orders" e := by simp [calls, idsFor]
  obtain ⟨result, ends, -, clocked, -⟩ :=
    @unregistered_file_is_refused_iff settings calls ⟨"orders", "part-2"⟩ never moment
  have absent : (run settings calls).cache.entries.get? ⟨"orders", "part-2"⟩ = none := by decide +kernel
  have unfresh : ¬ (run settings calls).cache.HasFresh ⟨"orders", "part-2"⟩ 0 := by
    rintro ⟨link, held, -⟩
    rw [absent] at held
    cases held
  have refused := (clocked 0 rfl).1.mpr unfresh
  have reason : (run settings calls).cache.refusal ⟨"orders", "part-2"⟩ = .notInBatch "part-2" "orders" := by
    decide +kernel
  rw [refused, reason] at ends
  exact ends

/-- A service that is asked to sign one file signs another as well, which was
never registered, and a read of the other file is given its link. -/
theorem unasked_link_is_handed_out :
    let settings : CacheSettings := ⟨some ⟨"service"⟩, 0, 10, 10, 60⟩
    let moment : Moment := .still 0 0
    let calls : List Event :=
      [⟨moment, .answer 0 (.ok (some (.ofList [("part-1", ⟨"signed", 50⟩), ("part-2", ⟨"unasked", 50⟩)])))⟩,
        ⟨moment, .get ⟨"orders", "part-1"⟩⟩,
        ⟨moment, .register "orders" ⟨"share", "schema", "orders"⟩ ["part-1"] .empty none⟩]
    (∀ e ∈ calls, "part-2" ∉ idsFor "orders" e) ∧
      (run settings (⟨moment, .get ⟨"orders", "part-2"⟩⟩ :: calls)).reads[1]? =
        some (.ended (.ok ⟨"unasked", 50⟩)) := by
  intro settings moment calls
  exact ⟨by simp [calls, idsFor], by decide +kernel⟩

end Traffic
end SharedTables.Cache
