import SharedTables.Proofs.Cache.Entries
import SharedTables.Proofs.Cache.Reads
import SharedTables.Proofs.Resolver.Scans

/-! Reads of paths from their first turn to their last, with and without the
cache. A read ends with a link, with what is wrong with its path, or without a
credential; only the answer of a service that has nothing to say about a single
file is taken for something else. -/
namespace SharedTables

open Session (Reply)

/-- Whether two states of a site differ in what they remember and cache only. -/
structure Site.Same (s s' : Site) : Prop where
  resolver : s.resolver.Same s'.resolver
  sharing : s'.cache.isSome = s.cache.isSome

/-- Whether the links of a site are kept in a cache. -/
def Site.keepsLinks (s : Site) : Bool := s.linkCache?.isSome

/-- The result of a read that has ended. -/
def Session.Stage.result? : Session.Stage → Option (Except ScanError Link)
  | .read (.failed e) => some (.error e)
  | .read (.cached (.done result)) => some (result.mapError .collaborator)
  | .link result => some result
  | _ => none

/-- Whether a read of a path can have come to a stage by some turns, the latest first. -/
inductive PathRead (home : Site) (path : String) : List Turn → Session.Stage → Prop
  | begins (s : Site) (m : Moment) (same : home.Same s) :
      PathRead home path [⟨m, none, s, (s.read m path).1⟩] (.read (s.read m path).2)
  | goesOn (s s' : Site) (m : Moment) (reply : Reply) (before after : Session.Stage) (same : home.Same s)
      (earlier : PathRead home path turns before) (resumed : s.resume m before reply = some (s', after)) :
      PathRead home path (⟨m, some reply, s, s'⟩ :: turns) after

/-- What a read may end with: a link, or what is wrong with the path, or no
credential. A clock that fails is not the read's own matter. -/
inductive Accepted (home : Site) (path : String) (m : Moment) : Except ScanError Link → Prop
  | link (link : Link) : Accepted home path m (.ok link)
  | path (e : PathError) (unread : FilePath.decode home.resolver.settings.scheme path = .error e) :
      Accepted home path m (.error (.path e))
  | credential (e : CredentialError) : Accepted home path m (.error (.collaborator (.credential e)))
  | clock (fault : Fault) (failed : m.epoch = .error fault) : Accepted home path m (.error (.collaborator fault))

/-- How far a read of a file is that has not ended. -/
inductive Reading (home : Site) (file : FilePath) : Session.Stage → Prop
  | waits (caching : home.keepsLinks = true) (limit : Seconds) (l : Cache.Lookup)
      (own : l.key = ⟨file.tableLocation, file.fileId⟩) : Reading home file (.read (.cached (.wait limit l)))
  | refreshes (caching : home.keepsLinks = true) (issuer : Issuer) (refresh : Cache.Refresh)
      (own : refresh.key = ⟨file.tableLocation, file.fileId⟩) :
      Reading home file (.read (.cached (.sign issuer refresh)))
  | asks (plain : home.keepsLinks = false) (issuer : Issuer) (read : DirectRead) (own : read.fileId = file.fileId) :
      Reading home file (.read (.sign issuer read))

/-- How the last turn of a read ends it: by itself, or because a service has
answered, for the batch of the file or for the file alone. -/
inductive Ends (home : Site) (path : String) (turn : Turn) : Except ScanError Link → Prop
  | itself (unsigned : ∀ answer, turn.reply ≠ some (.signature answer))
      (accepted : Accepted home path turn.moment result) : Ends home path turn result
  | refreshed (caching : home.keepsLinks = true) (file : FilePath)
      (read : FilePath.decode home.resolver.settings.scheme path = .ok file) (refresh : Cache.Refresh)
      (own : refresh.key = ⟨file.tableLocation, file.fileId⟩) (answer : Signature)
      (signed : turn.reply = some (.signature answer)) (c : Cache)
      (left : turn.left.cache = some (c.finishRefresh turn.moment refresh answer).1) :
      Ends home path turn ((c.finishRefresh turn.moment refresh answer).2.mapError .collaborator)
  | answered (plain : home.keepsLinks = false) (file : FilePath)
      (read : FilePath.decode home.resolver.settings.scheme path = .ok file) (direct : DirectRead)
      (own : direct.fileId = file.fileId) (answer : Signature) (signed : turn.reply = some (.signature answer)) :
      Ends home path turn (direct.finish answer)

/-- Whether a read that has come to a stage with a turn is under way or has ended. -/
def Stands (home : Site) (path : String) (turn : Turn) (stage : Session.Stage) : Prop :=
  (∃ file, FilePath.decode home.resolver.settings.scheme path = .ok file ∧ Reading home file stage) ∨
    ∃ result, stage.result? = some result ∧ Ends home path turn result

namespace Cache

variable {c : Cache} {m : Moment} {l : Lookup} {key : EntryKey} {fault : Fault}

/-- How a stretch of a read can end; a read only waits as long as its time is not over. -/
inductive Outlook (m : Moment) (l : Lookup) : ReadProgress → Prop
  | found (link : Link) : Outlook m l (.done (.ok link))
  | refused (e : CredentialError) : Outlook m l (.done (.error (.credential e)))
  | clock (fault : Fault) (failed : m.epoch = .error fault) : Outlook m l (.done (.error fault))
  | waits (limit : Seconds) (l' : Lookup) (own : l'.key = l.key) (same : l'.deadline = l.deadline)
      (timely : 0 < Seconds.between m.monotonic l.deadline) : Outlook m l (.wait limit l')
  | signs (issuer : Issuer) (refresh : Refresh) (own : refresh.key = l.key) : Outlook m l (.sign issuer refresh)

theorem freshLink?_fault (failed : c.freshLink? m key = .error fault) : m.epoch = .error fault := by
  unfold freshLink? at failed
  split at failed
  · cases failed
  · split at failed
    · rename_i broken
      cases failed
      exact broken
    · cases failed

private theorem afterRefresh_outlook {batch : Batch} : Outlook m l (.done (c.afterRefresh key batch).2) := by
  unfold afterRefresh
  split
  · exact .refused _
  · exact .refused _
  · exact .found _

private theorem lookInBatch_outlook (batch : Batch) : Outlook m l (c.lookInBatch m l batch).2 := by
  unfold lookInBatch
  split
  · exact .refused _
  · split
    · exact afterRefresh_outlook
    · split
      · unfold awaitRefresh
        dsimp only
        split
        · exact .refused _
        · rename_i timely
          exact .waits _ _ rfl rfl (Rat.not_le.mp timely)
      · unfold refreshBatch
        cases c.issuerFor batch with
        | some issuer => exact .signs issuer _ rfl
        | none => exact .refused _

theorem look_outlook (c : Cache) (m : Moment) (l : Lookup) : Outlook m l (c.look m l).2 := by
  unfold look
  cases fresh : c.freshLink? m l.key with
  | error fault => exact .clock fault (freshLink?_fault fresh)
  | ok found =>
    cases found with
    | some link => exact .found link
    | none =>
      cases c.batches.get? l.key.tableKey with
      | none => exact .refused _
      | some batch => exact lookInBatch_outlook batch

/-- A refresh fails for want of a credential, or because the clock does. -/
theorem finishRefresh_failed {r : Refresh} {answer : Signature}
    (failed : (c.finishRefresh m r answer).2 = .error fault) :
    (∃ e, fault = .credential e) ∨ m.epoch = .error fault := by
  cases answer with
  | error reason => cases reason <;> cases failed <;> exact Or.inl ⟨_, rfl⟩
  | ok links =>
    have ended : ReadOf r.key (m.epoch = .error ·) (fun _ => False) (.done (c.finishRefresh m r (.ok links)).2) :=
      finishRefresh_readOf r (.ok links) (fun _ broken => broken) fun _ refused => by cases refused
    rw [failed] at ended
    cases ended with
    | failed reason => exact Or.inl ⟨_, rfl⟩
    | clock broken => exact Or.inr broken
    | service never => exact never.elim

end Cache

section

variable {home s : Site} {path : String} {file : FilePath} {m : Moment} {turn : Turn} {turns : List Turn}
  {stage : Session.Stage}

theorem Site.Same.keepsLinks (same : home.Same s) : s.keepsLinks = home.keepsLinks := by
  unfold Site.keepsLinks Site.linkCache?
  rw [same.resolver.settings]
  split
  · exact same.sharing
  · rfl

/-- What a cache hands out for a read, or refuses it, is acceptable. -/
theorem accepted_mapError {result : Except Fault Link}
    (fails : ∀ fault, result = .error fault → (∃ e, fault = .credential e) ∨ m.epoch = .error fault) :
    Accepted home path m (result.mapError .collaborator) := by
  cases result with
  | ok link => exact .link link
  | error fault =>
    obtain ⟨e, rfl⟩ | broken := fails fault rfl
    · exact .credential e
    · exact .clock fault broken

/-- Where a stretch of a read in the cache leads. -/
theorem look_stands (caching : home.keepsLinks = true)
    (read : FilePath.decode home.resolver.settings.scheme path = .ok file) (c : Cache) (l : Cache.Lookup)
    (own : l.key = ⟨file.tableLocation, file.fileId⟩)
    (unsigned : ∀ answer, turn.reply ≠ some (.signature answer)) :
    Stands home path turn (.read (.cached (c.look turn.moment l).2)) := by
  have outlook := c.look_outlook turn.moment l
  generalize (c.look turn.moment l).2 = progress at outlook
  cases outlook with
  | found link => exact Or.inr ⟨_, rfl, .itself unsigned (.link link)⟩
  | refused e => exact Or.inr ⟨_, rfl, .itself unsigned (.credential e)⟩
  | clock fault failed => exact Or.inr ⟨_, rfl, .itself unsigned (.clock fault failed)⟩
  | waits limit l' same => exact Or.inl ⟨file, read, .waits caching limit l' (same.trans own)⟩
  | signs issuer refresh same => exact Or.inl ⟨file, read, .refreshes caching issuer refresh (same.trans own)⟩

theorem read_stands (same : home.Same s) (m : Moment) :
    Stands home path ⟨m, none, s, (s.read m path).1⟩ (.read (s.read m path).2) := by
  unfold Site.read
  rw [same.resolver.settings]
  cases read : FilePath.decode home.resolver.settings.scheme path with
  | error e => exact Or.inr ⟨_, rfl, .itself (by simp) (.path e read)⟩
  | ok file =>
    have kept := same.keepsLinks
    unfold Site.keepsLinks at kept
    dsimp only
    cases caching : s.linkCache? with
    | some c =>
      rw [caching] at kept
      exact look_stands kept.symm read c _ rfl (by simp)
    | none =>
      rw [caching] at kept
      simp only [Resolver.beginDirectRead]
      split
      · exact Or.inr ⟨_, rfl, .itself (by simp) (.credential _)⟩
      · exact Or.inr ⟨_, rfl, .itself (by simp) (.credential _)⟩
      · exact Or.inl ⟨file, read, .asks kept.symm _ _ rfl⟩

/-- A read that has ended does not go on. -/
theorem resume_ended {reply : Reply} {result : Except ScanError Link} (ended : stage.result? = some result) :
    s.resume m stage reply = none := by
  cases stage with
  | scan progress => cases ended
  | link result => rfl
  | read progress =>
    cases progress with
    | failed e => rfl
    | sign issuer read => cases ended
    | cached progress =>
      cases progress with
      | done result => rfl
      | wait limit l | sign issuer refresh => cases ended

theorem PathRead.stands (read : PathRead home path (turn :: turns) stage) : Stands home path turn stage := by
  generalize whole : turn :: turns = all at read
  induction read generalizing turn turns with
  | begins s m same =>
    cases whole
    exact read_stands same m
  | @goesOn earlier s s' m reply before after same read resumed ih =>
    cases whole
    obtain ⟨latest, others, rfl⟩ : ∃ latest others, earlier = latest :: others := by
      cases read <;> exact ⟨_, _, rfl⟩
    obtain ⟨file, decoded, reading⟩ | ⟨result, ended, -⟩ := ih rfl
    · cases reading with
      | waits caching limit l own =>
        cases reply with
        | wakeUp =>
          obtain ⟨c, -, went⟩ := Option.map_eq_some_iff.mp resumed
          cases went
          exact look_stands caching decoded c l own (by simp)
        | metadata | files | changes | signature => cases resumed
      | refreshes caching issuer refresh own =>
        cases reply with
        | signature answer =>
          obtain ⟨c, -, went⟩ := Option.map_eq_some_iff.mp resumed
          cases went
          exact Or.inr ⟨_, rfl, .refreshed caching file decoded refresh own answer rfl c rfl⟩
        | metadata | files | changes | wakeUp => cases resumed
      | asks plain issuer direct own =>
        cases reply with
        | signature answer =>
          cases resumed
          exact Or.inr ⟨_, rfl, .answered plain file decoded direct own answer rfl⟩
        | metadata | files | changes | wakeUp => cases resumed
    · cases (resume_ended ended).symm.trans resumed

/-- A read of a file alone fails as it should unless the service has nothing to say at all. -/
theorem finish_accepted_iff {direct : DirectRead} {answer : Signature} :
    Accepted home path m (direct.finish answer) ↔ answer ≠ .ok none := by
  constructor
  · rintro accepted rfl
    cases accepted
  · intro said
    unfold DirectRead.finish
    split
    · exact .credential _
    · exact absurd rfl said
    · split
      · exact .link _
      · exact .credential _

/-- Whether a read ends for want of a credential. -/
def Refused (result : Except ScanError Link) : Prop := ∃ e, result = .error (.collaborator (.credential e))

/-- A file that is left out is refused, again unless the service has nothing to say at all. -/
theorem finish_refused_iff {direct : DirectRead} {links : Option Links}
    (skipped : (links.getD .empty).get? direct.fileId = none) : Refused (direct.finish (.ok links)) ↔ links ≠ none := by
  cases links with
  | none =>
    refine iff_of_false ?_ (not_not_intro rfl)
    rintro ⟨e, failed⟩
    cases failed
  | some signed =>
    have lacking : signed.get? direct.fileId = none := skipped
    refine iff_of_true ⟨.notSigned direct.fileId direct.table, ?_⟩ (Option.some_ne_none signed)
    simp only [DirectRead.finish, lacking]

/-- The read that has refreshed a batch is refused exactly if no link is left. -/
theorem refreshed_refused_iff {c : Cache} {refresh : Cache.Refresh} {links : Option Links} (clock : m.epoch = .ok now) :
    Refused ((c.finishRefresh m refresh (.ok links)).2.mapError .collaborator) ↔
      (c.finishRefresh m refresh (.ok links)).1.entries.get? refresh.key = none := by
  obtain ⟨-, result⟩ := c.finishRefresh_result refresh links clock
  rw [result]
  cases (c.finishRefresh m refresh (.ok links)).1.entries.get? refresh.key with
  | none => exact iff_of_true ⟨_, rfl⟩ rfl
  | some link =>
    refine iff_of_false ?_ (Option.some_ne_none link)
    rintro ⟨e, failed⟩
    cases failed

/-- Whether a read that has not ended goes on: once a service has answered it
ends, and it waits again only as long as its time is not over. -/
inductive GoesOn (home : Site) (stage : Session.Stage) : Prop
  | signing (ends : ∀ s m answer, home.Same s → ∃ s' after result,
      s.resume m stage (.signature answer) = some (s', after) ∧ after.result? = some result)
  | waiting (limit : Seconds) (l : Cache.Lookup) (waits : stage = .read (.cached (.wait limit l)))
      (looks : ∀ s m, home.Same s → ∃ s' after, s.resume m stage .wakeUp = some (s', after) ∧
        ∀ limit' l', after = .read (.cached (.wait limit' l')) →
          l'.deadline = l.deadline ∧ 0 < Seconds.between m.monotonic l.deadline)

theorem Reading.goesOn (reading : Reading home file stage) : GoesOn home stage := by
  have shared {s : Site} (caching : home.keepsLinks = true) (same : home.Same s) : ∃ c, s.cache = some c := by
    obtain ⟨c, kept⟩ := Option.isSome_iff_exists.mp (same.keepsLinks.trans caching)
    exact ⟨c, (Site.linkCache?_eq_some_iff.mp kept).2⟩
  cases reading with
  | waits caching limit l own =>
    refine .waiting limit l rfl fun s m same => ?_
    obtain ⟨c, cached⟩ := shared caching same
    have outlook := c.look_outlook m l
    refine ⟨{ s with cache := some (c.look m l).1 }, .read (.cached (c.look m l).2), ?_, fun limit' l' waits => ?_⟩
    · rw [Site.resume, cached]
      rfl
    have waits : (c.look m l).2 = .wait limit' l' := PathProgress.cached.inj (Session.Stage.read.inj waits)
    rw [waits] at outlook
    cases outlook with
    | waits _ _ _ kept timely => exact ⟨kept, timely⟩
  | refreshes caching issuer refresh own =>
    refine .signing fun s m answer same => ?_
    obtain ⟨c, cached⟩ := shared caching same
    refine ⟨{ s with cache := some (c.finishRefresh m refresh answer).1 },
      .read (.cached (.done (c.finishRefresh m refresh answer).2)), _, ?_, rfl⟩
    rw [Site.resume, cached]
    rfl
  | asks plain issuer direct own => exact .signing fun s m answer same => ⟨_, _, _, rfl, rfl⟩

/-- A read of a path ends with a link, with what is wrong with the path or for
want of a credential, unless a service that is asked for the file alone has
nothing to say at all. If the service leaves the file out, the read is refused
with that exception, and in the cache as long as no link is left. A read that
has not ended goes on. -/
theorem reads_fail_in_one_way_iff (read : PathRead home path (turn :: turns) stage) :
    (∀ result, stage.result? = some result → (Accepted home path turn.moment result ↔
      ¬ (home.keepsLinks = false ∧ turn.reply = some (.signature (.ok none))))) ∧
    (∀ result links file now, stage.result? = some result → turn.reply = some (.signature (.ok links)) →
      FilePath.decode home.resolver.settings.scheme path = .ok file → (links.getD .empty).get? file.fileId = none →
      turn.moment.epoch = .ok now → (Refused result ↔ if home.keepsLinks
        then ∀ c, turn.left.cache = some c → c.entries.get? ⟨file.tableLocation, file.fileId⟩ = none
        else links ≠ none)) ∧
    (stage.result? = none → GoesOn home stage) := by
  have stands := read.stands
  refine ⟨fun result ended => ?_, fun result links file now ended reply decoded skipped clock => ?_, fun going => ?_⟩
  · obtain ⟨file, decoded, reading⟩ | ⟨result', ended', ends⟩ := stands
    · cases reading <;> cases ended
    · cases ended.symm.trans ended'
      cases ends with
      | itself unsigned accepted => exact iff_of_true accepted fun nothing => unsigned _ nothing.2
      | refreshed caching file decoded refresh own answer signed c left =>
        refine iff_of_true (accepted_mapError fun fault => Cache.finishRefresh_failed) fun nothing => ?_
        exact Bool.false_ne_true (nothing.1.symm.trans caching)
      | answered plain file decoded direct own answer signed =>
        rw [finish_accepted_iff, signed]
        simp [plain]
  · obtain ⟨file, decoded, reading⟩ | ⟨result', ended', ends⟩ := stands
    · cases reading <;> cases ended
    · cases ended.symm.trans ended'
      cases ends with
      | itself unsigned accepted => exact absurd reply (unsigned _)
      | refreshed caching file' decoded' refresh own answer signed c left =>
        cases decoded.symm.trans decoded'
        cases signed.symm.trans reply
        rw [refreshed_refused_iff clock, own, if_pos caching]
        simp [left]
      | answered plain file' decoded' direct own answer signed =>
        cases decoded.symm.trans decoded'
        cases signed.symm.trans reply
        rw [finish_refused_iff (own ▸ skipped), if_neg (by simp [plain])]
  · obtain ⟨file, decoded, reading⟩ | ⟨result, ended, -⟩ := stands
    · exact reading.goesOn
    · cases going.symm.trans ended

/-- A resolver without a cache asks for one of its files. -/
private theorem plain_read_asks (answer : Signature) :
    let settings : ResolverSettings := ⟨⟨true, false⟩, true, false, .exact, .lazy, "share"⟩
    let table : TableReference := ⟨"share", "schema", "orders"⟩
    let home : Site := ⟨(Resolver.new settings "orders" "1" (some ⟨"service"⟩)).rememberTable "orders_1" table, none⟩
    let now : Moment := .still 0 0
    PathRead home "share:/orders_1/part-1/0"
      [⟨now, some (.signature answer), home, home⟩, ⟨now, none, home, home⟩]
      (.link ((⟨table, "part-1"⟩ : DirectRead).finish answer)) := by
  intro settings table home now
  have decoded : FilePath.decode "share" "share:/orders_1/part-1/0" = .ok ⟨"orders_1", "part-1", 0⟩ := by decide +kernel
  have same : home.Same home := ⟨⟨rfl, rfl, rfl⟩, rfl⟩
  have asks : home.read now "share:/orders_1/part-1/0" = (home, .sign ⟨"service"⟩ ⟨table, "part-1"⟩) := by
    unfold Site.read
    rw [show home.resolver.settings.scheme = "share" from rfl, decoded]
    rfl
  have begun : PathRead home "share:/orders_1/part-1/0" _ _ := .begins home now same
  rw [asks] at begun
  exact .goesOn home home now (.signature answer) _ _ same begun rfl

/-- A service that has signed other files only: the read is refused. -/
theorem file_left_out_is_refused :
    let settings : ResolverSettings := ⟨⟨true, false⟩, true, false, .exact, .lazy, "share"⟩
    let table : TableReference := ⟨"share", "schema", "orders"⟩
    let home : Site := ⟨(Resolver.new settings "orders" "1" (some ⟨"service"⟩)).rememberTable "orders_1" table, none⟩
    let now : Moment := .still 0 0
    let signed : Links := .ofList [("part-2", ⟨"two", 100⟩)]
    ∃ result, PathRead home "share:/orders_1/part-1/0"
        [⟨now, some (.signature (.ok (some signed))), home, home⟩, ⟨now, none, home, home⟩] (.link result) ∧
      Accepted home "share:/orders_1/part-1/0" now result ∧ Refused result := by
  intro settings table home now signed
  have read := plain_read_asks (.ok (some signed))
  obtain ⟨accepted, refused, -⟩ := reads_fail_in_one_way_iff read
  have decoded : FilePath.decode "share" "share:/orders_1/part-1/0" = .ok ⟨"orders_1", "part-1", 0⟩ := by decide +kernel
  refine ⟨_, read, (accepted _ rfl).mpr ?_, ?_⟩
  · rintro ⟨-, nothing⟩
    cases nothing
  · exact (refused _ (some signed) _ 0 rfl rfl decoded (by decide +kernel) rfl).mpr (Option.some_ne_none signed)

/-- A service that answers nothing at all: the read ends with another error. -/
theorem silent_service_is_not_refused :
    let settings : ResolverSettings := ⟨⟨true, false⟩, true, false, .exact, .lazy, "share"⟩
    let table : TableReference := ⟨"share", "schema", "orders"⟩
    let home : Site := ⟨(Resolver.new settings "orders" "1" (some ⟨"service"⟩)).rememberTable "orders_1" table, none⟩
    let now : Moment := .still 0 0
    PathRead home "share:/orders_1/part-1/0"
        [⟨now, some (.signature (.ok none)), home, home⟩, ⟨now, none, home, home⟩] (.link (.error .noAnswer)) ∧
      ¬ Accepted home "share:/orders_1/part-1/0" now (.error .noAnswer) := by
  intro settings table home now
  refine ⟨plain_read_asks (.ok none), ?_⟩
  intro accepted
  cases accepted

end
end SharedTables
