import SharedTables.Proofs.Cache.Reads
import SharedTables.Proofs.File.Path
import SharedTables.Proofs.Resolver.Accounts

/-! Scans that have been handed out. Until its resolver is closed, each file of
a scan has a path that leads to its key, the key is on record, and so the batch
stays and keeps the file. A read of the path can only fail where a link is
signed or waited for. -/
namespace SharedTables

namespace Session

variable {s s' : Session} {e : Event} {i j call : Nat} {r : Resolver} {scan : ResolvedScan} {key fileId : String}

/-- Whether every file of a scan has a path of its resolver to a batch that is
on record there and has the file. -/
def Covered (c : Cache) (r : Resolver) (scan : ResolvedScan) : Prop :=
  ∀ file ∈ scan.files, file.tableKey ≠ "" ∧ file.scheme = r.settings.scheme ∧
    file.tableKey ∈ r.registered ∧ file.fileId ∈ c.files file.tableKey

/-- Whether the scans that are open, and those still expected, are covered. -/
structure Kept (s : Session) : Prop where
  scans : ∀ i scan, (i, scan) ∈ s.scans →
    ∃ r, s.resolvers[i]? = some r ∧ (r.settings.linkCache = true → Covered s.cache r scan)
  calls : ∀ call i stage, s.calls.get? call = some ⟨i, stage⟩ → ∃ r, s.resolvers[i]? = some r ∧ r.Expects stage

/-- A resolver keeps its settings. It keeps its records too, or has been closed
and has no open scans. -/
theorem Change.keeps_resolver (change : Change s e s') (known : s.resolvers[j]? = some r) :
    ∃ r', s'.resolvers[j]? = some r' ∧ r'.settings = r.settings ∧
      ((∀ key ∈ r.registered, key ∈ r'.registered) ∨ e.action = .close j ∧ ∀ scan, (j, scan) ∉ s'.scans) := by
  have replaced {i : Nat} {old new : Resolver} (before : s.resolvers[i]? = some old)
      (settings : new.settings = old.settings)
      (records : (∀ key ∈ old.registered, key ∈ new.registered) ∨
        e.action = .close i ∧ ∀ scan, (i, scan) ∉ s'.scans) :
      ∃ r', (s.resolvers.set i new)[j]? = some r' ∧ r'.settings = r.settings ∧
        ((∀ key ∈ r.registered, key ∈ r'.registered) ∨ e.action = .close j ∧ ∀ scan, (j, scan) ∉ s'.scans) := by
    rw [getElem?_set_known before]
    split
    · rename_i same
      subst same
      cases known.symm.trans before
      exact ⟨new, rfl, settings, records⟩
    · exact ⟨r, known, rfl, Or.inl fun _ member => member⟩
  cases change with
  | enters =>
    obtain ⟨inside, -⟩ := List.getElem?_eq_some_iff.mp known
    exact ⟨r, by rwa [List.getElem?_append_left inside], rfl, Or.inl fun _ member => member⟩
  | plans i old new before alike =>
    exact replaced before alike.settings (Or.inl fun key member => alike.registered ▸ member)
  | closes i old before asked => exact replaced before rfl (Or.inr ⟨asked, fun scan => by simp⟩)
  | sweeps => exact ⟨r, known, rfl, Or.inl fun _ member => member⟩
  | goes call i old stage reply went before called asked stretch =>
    cases stretch with
    | scans new progress alike | breaks new tableKey table fileIds links refresher fault alike =>
      exact replaced before alike.settings (Or.inl fun key member => alike.registered ▸ member)
    | registers new tableKey table fileIds links refresher outcome alike =>
      refine replaced before alike.settings (Or.inl fun key member => ?_)
      exact List.mem_append_left _ (alike.registered ▸ member)
    | looks | refreshed | bypasses => exact replaced before rfl (Or.inl fun _ member => member)

/-- A batch keeps its files as long as its key is on record. -/
theorem Change.keeps_files (change : Change s e s') (balanced : Balanced s lost) (held : 0 < s.holds key)
    (listed : fileId ∈ s.cache.files key) : fileId ∈ s'.cache.files key := by
  cases change with
  | enters | plans => exact listed
  | closes i r known asked => rwa [(Cache.releases_keep r.registered s.cache).2.1]
  | sweeps =>
    have holders : 0 < s.cache.holders key := by
      have account := balanced key
      omega
    rwa [Cache.files, Cache.roll, Cache.get?_sweep_held holders]
  | goes call i r stage reply went known before asked stretch =>
    cases stretch with
    | scans | bypasses => exact listed
    | registers | breaks => exact Cache.mem_files_register.mpr (Or.inl listed)
    | looks => simpa only [Cache.files, record, Option.getD_some, Cache.roll_look] using listed
    | refreshed => simpa only [Cache.files, record, Option.getD_some, Cache.roll_finishRefresh] using listed

theorem holds_pos (known : s.resolvers[i]? = some r) (recorded : key ∈ r.registered) : 0 < s.holds key := by
  refine List.count_pos_iff.mpr (List.mem_flatMap.mpr ⟨r, ?_, recorded⟩)
  exact List.mem_of_getElem? known

/-- A scan stays covered as long as it is open. -/
theorem Change.keeps_covered (change : Change s e s') (balanced : Balanced s lost)
    (known : s.resolvers[i]? = some r) (still : (i, scan) ∈ s'.scans) :
    ∃ r', s'.resolvers[i]? = some r' ∧ r'.settings = r.settings ∧
      (Covered s.cache r scan → Covered s'.cache r' scan) := by
  obtain ⟨r', known', settings, records | ⟨-, closed⟩⟩ := change.keeps_resolver known
  · refine ⟨r', known', settings, fun covered file member => ?_⟩
    obtain ⟨keyed, scheme, recorded, listed⟩ := covered file member
    have kept := change.keeps_files balanced (holds_pos known recorded) listed
    exact ⟨keyed, settings ▸ scheme, records _ recorded, kept⟩
  · exact absurd still (closed scan)

/-- A scan that a call expected fits the batch that the call has registered. -/
theorem covered_registered {r' : Resolver} {table : TableReference} {fileIds : List String} {links : Links}
    {refresher : Option Issuer} (c : Cache) (m : Moment) (alike : r.Alike r')
    (fits : r.Fits key fileIds (.ok scan)) :
    Covered (c.register m key table fileIds links refresher).1 (r'.rememberBatch key) scan := by
  intro file member
  obtain ⟨rfl, keyed, listed, scheme⟩ := fits scan rfl file member
  have settings : (r'.rememberBatch file.tableKey).settings = r.settings := alike.settings
  refine ⟨keyed, settings ▸ scheme, List.mem_append_right _ (List.mem_singleton.mpr rfl), ?_⟩
  exact Cache.mem_files_register.mpr (Or.inr ⟨rfl, listed⟩)

/-- Only a scan that has just been registered, or one of a resolver that keeps
no links in the cache, is handed out. -/
theorem Change.hands_out (change : Change s e s') (kept : Kept s) (opened : (i, scan) ∈ s'.scans) :
    (i, scan) ∈ s.scans ∨
      ∃ r, s'.resolvers[i]? = some r ∧ (r.settings.linkCache = true → Covered s'.cache r scan) := by
  cases change with
  | enters | plans | sweeps => exact Or.inl opened
  | closes => exact Or.inl (List.mem_of_mem_filter opened)
  | goes call j r stage reply went known before asked stretch =>
    have expects (stage' : Stage) (reached : stage = some stage') : r.Expects stage' := by
      subst reached
      obtain ⟨r', known', expects⟩ := kept.calls call j stage' before
      cases known.symm.trans known'
      exact expects
    cases stretch with
    | scans r' progress alike unread uncached =>
      unfold record at opened
      dsimp only at opened
      split at opened
      · rename_i scan' ended
        obtain ⟨rfl, rfl⟩ | old := by simpa using opened
        · refine Or.inr ⟨r', by simp [record, getElem?_set_known known], fun caching => ?_⟩
          rw [alike.settings, uncached _ (by simpa using ended)] at caching
          cases caching
        · exact Or.inl old
      · exact Or.inl opened
    | registers r' tableKey table fileIds links refresher outcome alike unread m' reading fits =>
      cases outcome with
      | error e => exact Or.inl opened
      | ok scan' =>
        obtain ⟨rfl, rfl⟩ | old := by simpa [record] using opened
        · exact Or.inr ⟨r'.rememberBatch tableKey, by simp [record, getElem?_set_known known],
            fun _ => covered_registered s.cache m' alike (fits expects)⟩
        · exact Or.inl old
    | breaks | looks | refreshed => exact Or.inl opened
    | bypasses stage' uncached plain =>
      obtain ⟨e, rfl⟩ | ⟨issuer, read, rfl⟩ | ⟨result, rfl⟩ := plain <;> exact Or.inl opened

/-- What a call will hand out fits its batch. -/
theorem Change.expects (change : Change s e s') (kept : Kept s) {stage : Stage}
    (reached : s'.calls.get? call = some ⟨i, stage⟩) : ∃ r, s'.resolvers[i]? = some r ∧ r.Expects stage := by
  have old (before : s.calls.get? call = some ⟨i, stage⟩) : ∃ r, s'.resolvers[i]? = some r ∧ r.Expects stage := by
    obtain ⟨r, known, expects⟩ := kept.calls call i stage before
    obtain ⟨r', known', settings, -⟩ := change.keeps_resolver known
    exact ⟨r', known', expects.of_settings settings⟩
  cases change with
  | enters | plans | closes | sweeps => exact old reached
  | goes call' j r prior reply went known before asked stretch =>
    rw [record_calls] at reached
    split at reached
    · cases reached
      have expected (stage' : Stage) (same : prior = some stage') : r.Expects stage' := by
        subst same
        obtain ⟨r', known', expects⟩ := kept.calls call' i stage' before
        cases known.symm.trans known'
        exact expects
      refine ⟨went.1.resolver, by simp [record, getElem?_set_known known], ?_⟩
      cases stretch with
      | scans r' progress alike unread uncached expects => exact (expects expected).of_settings alike.settings
      | registers | breaks | looks | refreshed => exact trivial
      | bypasses stage' uncached plain =>
        obtain ⟨e, rfl⟩ | ⟨issuer, read, rfl⟩ | ⟨result, rfl⟩ := plain <;> exact trivial
    · exact old reached

theorem Kept.changed (kept : Kept s) (balanced : Balanced s lost) (change : Change s e s') : Kept s' where
  scans i scan opened := by
    obtain old | new := change.hands_out kept opened
    · obtain ⟨r, known, covered⟩ := kept.scans i scan old
      obtain ⟨r', known', settings, stays⟩ := change.keeps_covered balanced known opened
      exact ⟨r', known', fun caching => stays (covered (settings ▸ caching))⟩
    · exact new
  calls _ _ _ := change.expects kept

theorem kept_run (settings : CacheSettings) (events : List Event) :
    Kept (run settings events) ∧ ∃ lost, Balanced (run settings events) lost := by
  refine run_holds (fun s => Kept s ∧ ∃ lost, Balanced s lost) ⟨⟨?_, ?_⟩, fun _ => 0, fun _ => rfl⟩ ?_
  · intro i scan opened
    cases opened
  · intro call i stage reached
    cases reached
  · rintro s s' e - ⟨kept, lost, balanced⟩ change
    obtain ⟨lost', balanced', -⟩ := balanced.changed change
    exact ⟨kept.changed balanced change, lost', balanced'⟩

theorem Change.keeps_open (change : Change s e s') (opened : (i, scan) ∈ s.scans) (unclosed : e.action ≠ .close i) :
    (i, scan) ∈ s'.scans := by
  cases change with
  | enters | plans | sweeps => exact opened
  | closes j r known asked =>
    have differ : i ≠ j := fun same => unclosed (same ▸ asked)
    simp [opened, differ]
  | goes call j r stage reply went =>
    unfold record
    dsimp only
    split
    · exact List.mem_cons_of_mem _ opened
    · exact opened

/-- How far a read of a file can have come after some events: a fault that is
no failure to sign is that of the service in its answer. -/
def ReadSince (entry : EntryKey) (call : Nat) (events : List Event) : Cache.ReadProgress → Prop :=
  Cache.ReadOf entry (fun _ => False) fun fault => ∃ e ∈ events, e.action = .reply call (.signature (.error fault))

/-- A read goes on as a read of its file as long as the file is in its batch. -/
theorem Change.keeps_read {events : List Event} {entry : EntryKey} (change : Change s e s') (now : e ∈ events)
    (readable : e.Readable)
    (reading : s.calls.get? call = some ⟨i, .read (.cached progress)⟩) (far : ReadSince entry call events progress)
    (listed : entry.fileId ∈ s.cache.files entry.tableKey) :
    ∃ progress, s'.calls.get? call = some ⟨i, .read (.cached progress)⟩ ∧ ReadSince entry call events progress := by
  cases change with
  | enters | plans | closes | sweeps => exact ⟨progress, reading, far⟩
  | goes call' j r stage reply went known before asked stretch =>
    by_cases other : call = call'
    · subst other
      obtain ⟨stage', rfl, same⟩ := Option.map_eq_some_iff.mp (before.symm.trans reading)
      cases same
      cases stretch with
      | scans r' progress' alike unread => exact absurd rfl (unread _)
      | registers r' tableKey table fileIds links refresher outcome alike unread => exact absurd rfl (unread _)
      | breaks r' tableKey table fileIds links refresher fault alike unread => exact absurd rfl (unread _)
      | bypasses stage' uncached => exact absurd rfl (uncached _)
      | looks l awaited =>
        obtain none | ⟨limit, waited⟩ := awaited
        · cases none
        · cases waited
          cases far with
          | waits limit l own =>
            subst own
            exact ⟨_, by simp [record_calls], Cache.look_readOf listed fun _ => readable.epoch_ne⟩
      | refreshed issuer refresh answer signed =>
        cases signed
        cases far with
        | signs issuer refresh own =>
          subst own
          refine ⟨_, by simp [record_calls], Cache.finishRefresh_readOf (c := s.cache) refresh answer
            (fun _ => readable.epoch_ne) fun fault failed => ⟨e, now, ?_⟩⟩
          rw [asked _ rfl, failed]
    · exact ⟨progress, by simpa [record_calls, other] using reading, far⟩

theorem Kept.covered (kept : Kept s) (opened : (i, scan) ∈ s.scans) (known : s.resolvers[i]? = some r)
    (caching : r.settings.linkCache = true) : Covered s.cache r scan := by
  obtain ⟨r', known', covered⟩ := kept.scans i scan opened
  cases known.symm.trans known'
  exact covered caching

/-- A read of a file of a scan that is still open. -/
structure OpenRead (s : Session) (i : Nat) (scan : ResolvedScan) (file : FileReference) (call : Nat)
    (events : List Event) : Prop where
  member : file ∈ scan.files
  still : (i, scan) ∈ s.scans
  cached : ∃ r, s.resolvers[i]? = some r ∧ r.settings.linkCache = true
  reading : ∃ progress, s.calls.get? call = some ⟨i, .read (.cached progress)⟩ ∧
    ReadSince ⟨file.tableKey, file.fileId⟩ call events progress

theorem OpenRead.changed {file : FileReference} {events : List Event} (reads : OpenRead s i scan file call events)
    (kept : Kept s) (change : Change s e s') (now : e ∈ events) (readable : e.Readable)
    (unclosed : e.action ≠ .close i) : OpenRead s' i scan file call events := by
  obtain ⟨member, still, ⟨r, known, caching⟩, progress, reading, far⟩ := reads
  obtain ⟨-, -, -, listed⟩ := kept.covered still known caching file member
  obtain ⟨r', known', settings, -⟩ := change.keeps_resolver known
  exact ⟨member, change.keeps_open still unclosed, ⟨r', known', settings ▸ caching⟩,
    change.keeps_read now readable reading far listed⟩

/-- A path of a resolver that uses the cache is read as its file. -/
theorem read_begins {path : String} {file : FilePath} {m : Moment} (known : s.resolvers[i]? = some r)
    (caching : r.settings.linkCache = true) (decoded : FilePath.decode r.settings.scheme path = .ok file)
    (unused : s.calls.get? call = none) :
    let went := s.cache.get m file.tableLocation file.fileId
    let after := s.step ⟨m, .read call i path⟩
    (s.site r).read m path = (⟨r, some went.1⟩, .cached went.2) ∧ after.scans = s.scans ∧
      after.resolvers[i]? = some r ∧ after.calls.get? call = some ⟨i, .read (.cached went.2)⟩ := by
  intro went after
  have read : (s.site r).read m path = (⟨r, some went.1⟩, .cached went.2) := by
    simp [went, Site.read, site, decoded, Site.linkCache?, caching]
  have stepped : after = s.record call i (⟨r, some went.1⟩, .read (.cached went.2)) := by
    simp only [after, step, start, unused, known, read]
    rfl
  refine ⟨read, ?_, ?_, ?_⟩ <;> rw [stepped]
  · rfl
  · simp [record, getElem?_set_known known]
  · simp [record_calls]

/-- Until its resolver is closed, each file of a scan that has been handed out
has a path, which is read as the key and the id of the file. Whatever happens
from then on, as long as the clock of expirations can be read, the read is in
progress, has found a link, or has failed to sign the file or to wait for it. -/
theorem open_scans_stay_readable {settings : CacheSettings} {earlier later : List Event} {m : Moment}
    {i call : Nat} {r : Resolver} {scan : ResolvedScan} {file : FileReference}
    (opened : (i, scan) ∈ (run settings earlier).scans) (known : (run settings earlier).resolvers[i]? = some r)
    (caching : r.settings.linkCache = true) (member : file ∈ scan.files) (named : file.fileId ≠ "")
    (unused : (run settings earlier).calls.get? call = none) (unclosed : ∀ e ∈ later, e.action ≠ .close i)
    (readable : m.Readable) (afterwards : ∀ e ∈ later, e.Readable) :
    ∃ path, file.path = .ok path ∧
      FilePath.decode r.settings.scheme path = .ok ⟨file.tableKey, file.fileId, file.commitVersion⟩ ∧
      ((run settings earlier).site r).read m path =
        (⟨r, some ((run settings earlier).cache.get m file.tableKey file.fileId).1⟩,
          .cached ((run settings earlier).cache.get m file.tableKey file.fileId).2) ∧
      ∃ progress, (run settings (later ++ ⟨m, .read call i path⟩ :: earlier)).calls.get? call =
          some ⟨i, .read (.cached progress)⟩ ∧
        ReadSince ⟨file.tableKey, file.fileId⟩ call (later ++ [⟨m, .read call i path⟩]) progress := by
  obtain ⟨keyed, scheme, -, listed⟩ := (kept_run settings earlier).1.covered opened known caching file member
  obtain ⟨path, encoded, decoded⟩ := FileReference.decode_path named keyed
  rw [scheme] at decoded
  obtain ⟨read, sameScans, known', begun⟩ := read_begins (m := m) known caching decoded unused
  refine ⟨path, encoded, decoded, read, ?_⟩
  let reading : Event := ⟨m, .read call i path⟩
  have far : ReadSince ⟨file.tableKey, file.fileId⟩ call (later ++ [reading])
      ((run settings earlier).cache.get m file.tableKey file.fileId).2 :=
    Cache.look_readOf (l := (run settings earlier).cache.beginLookup m ⟨file.tableKey, file.fileId⟩) listed
      fun _ => readable.epoch_ne
  have start : OpenRead (run settings (reading :: earlier)) i scan file call (later ++ [reading]) :=
    ⟨member, sameScans ▸ opened, ⟨r, known', caching⟩, _, begun, far⟩
  let holds (s : Session) : Prop :=
    Kept s ∧ (∃ lost, Balanced s lost) ∧ OpenRead s i scan file call (later ++ [reading])
  have kept : holds (run settings (later ++ reading :: earlier)) := by
    refine run_keeps holds ⟨(kept_run settings _).1, (kept_run settings _).2, start⟩ fun now held change => ?_
    obtain ⟨kept, ⟨lost, balanced⟩, reads⟩ := held
    obtain ⟨lost', balanced', -⟩ := balanced.changed change
    exact ⟨kept.changed balanced change, ⟨lost', balanced'⟩,
      reads.changed kept change (List.mem_append_left _ now) (afterwards _ now) (unclosed _ now)⟩
  exact kept.2.2.reading

/-- A file is read on while the cache is swept, another resolver of its batch is
closed and a service answers without a link. -/
theorem file_of_open_scan_is_read :
    let settings : CacheSettings := ⟨some ⟨"service"⟩, 0, 10, 10, 60⟩
    let lazy : ResolverSettings := ⟨⟨true, false⟩, true, true, .exact, .lazy, "share"⟩
    let table : TableReference := ⟨"share", "schema", "orders"⟩
    let listed : FileAction := ⟨"part-1", "", none, .empty, none, none, none, none⟩
    let file : FileReference := ⟨"orders", Fingerprint.ofRange 0 none, "part-1", 0, .empty, 0, none, none, "share"⟩
    let now (action : Action) : Event := ⟨.still 0 0, action⟩
    let earlier := [now (.scanBatch 1 1 table [listed] 0 none), now (.scanBatch 0 0 table [listed] 0 none),
      now (.enter lazy "orders" "" none), now (.enter lazy "orders" "" none)]
    let later := [now (.reply 2 (.signature (.ok none))), now .sweep, now (.close 1)]
    ∃ path, file.path = .ok path ∧
      ∃ progress, (run settings (later ++ now (.read 2 0 path) :: earlier)).calls.get? 2 =
          some ⟨0, .read (.cached progress)⟩ ∧
        ReadSince ⟨file.tableKey, "part-1"⟩ 2 (later ++ [now (.read 2 0 path)]) progress := by
  intro settings lazy table listed file now earlier later
  have handed : (run settings earlier).scans.map (fun p => (p.1, p.2.files)) = [(1, [file]), (0, [file])] := by
    decide +kernel
  have own : (0, [file]) ∈ (run settings earlier).scans.map (fun p => (p.1, p.2.files)) := by simp [handed]
  obtain ⟨⟨i, scan⟩, opened, same⟩ := List.mem_map.mp own
  obtain ⟨rfl, files⟩ : i = 0 ∧ scan.files = [file] := Prod.mk.inj same
  have entered : (run settings earlier).resolvers[0]?.map (·.settings.linkCache) = some true := by decide +kernel
  obtain ⟨r, known, caching⟩ := Option.map_eq_some_iff.mp entered
  have member : file ∈ scan.files := by rw [files]; exact List.mem_singleton.mpr rfl
  have unclosed : ∀ e ∈ later, e.action ≠ .close 0 := by simp [later, now]
  have readable (action : Action) : (now action).Readable := .still 0 0
  have afterwards : ∀ e ∈ later, e.Readable := by simp [later, readable]
  obtain ⟨path, encoded, -, -, read⟩ := @open_scans_stay_readable settings earlier later (.still 0 0) 0 2 r scan file
    opened known caching member (by decide) (by decide +kernel) unclosed (.still 0 0) afterwards
  exact ⟨path, encoded, read⟩

end Session
end SharedTables
