import SharedTables.Proofs.Cache.Admission
import SharedTables.Proofs.Resolver.Calls
import SharedTables.Proofs.Resolver.Planning
import SharedTables.Proofs.Resolver.Registering
import SharedTables.Proofs.Scan.Listed

/-! Where the links and the tables of a session come from. A link gets into the
cache with a scan that has listed it, or was signed for the table of a scan; it
is kept with the key of that scan, as the table is. So whatever a read finds
under a key, and whatever table it has the batch of a key signed for, comes from
a scan that shares the key. -/
namespace SharedTables

/-- A file that is read without the cache gets a link that a service has signed. -/
theorem DirectRead.finish_eq_ok {read : DirectRead} {answer : Signature} (ended : read.finish answer = .ok link) :
    ∃ signed, answer = .ok (some signed) ∧ signed.get? read.fileId = some link := by
  unfold finish at ended
  split at ended
  · cases ended
  · cases ended
  · rename_i signed
    split at ended
    · cases ended
      exact ⟨signed, rfl, ‹_›⟩
    · cases ended

namespace Session

/-- Whether an event lists files of a table for a scan of a resolver, with a key for their links. -/
inductive Lists (s : Session) (e : Event) (i : Nat) : TableReference → String → List FileAction → Prop
  | files (call : Nat) (actions : List FileAction) (taken : e.action = .reply call (.files (.ok actions)))
      (listing : Listing) (waited : s.calls.get? call = some ⟨i, .scan (.files listing)⟩) (r : Resolver)
      (known : s.resolvers[i]? = some r) :
      Lists s e i listing.request.table (r.place listing.fingerprint).tableKey actions
  | changes (call : Nat) (changes : ChangeFiles) (taken : e.action = .reply call (.changes (.ok changes)))
      (listing : ChangeListing) (waited : s.calls.get? call = some ⟨i, .scan (.changes listing)⟩) (r : Resolver)
      (known : s.resolvers[i]? = some r) :
      Lists s e i listing.table (r.place listing.fingerprint).tableKey (changes.groups.flatMap (·.2))
  | batch (call : Nat) (table : TableReference) (actions : List FileAction) (start : Int) (last : Option Int)
      (taken : e.action = .scanBatch call i table actions start last) (unused : s.calls.get? call = none)
      (r : Resolver) (known : s.resolvers[i]? = some r) (fingerprint : String)
      (fingerprinted : Fingerprint.range start last = .ok fingerprint) :
      Lists s e i table (r.place fingerprint).tableKey actions

/-- Whether an event is the answer of a service that has signed links for a table. -/
inductive Signs (s : Session) (e : Event) : TableReference → Links → Prop
  | scan (call i : Nat) (signed : Links) (taken : e.action = .reply call (.signature (.ok (some signed))))
      (registration : Registration) (waited : s.calls.get? call = some ⟨i, .scan (.sign registration)⟩) :
      Signs s e registration.filling.table signed
  | refresh (call i : Nat) (signed : Links) (taken : e.action = .reply call (.signature (.ok (some signed))))
      (issuer : Issuer) (refresh : Cache.Refresh)
      (waited : s.calls.get? call = some ⟨i, .read (.cached (.sign issuer refresh))⟩) : Signs s e refresh.table signed
  | read (call i : Nat) (signed : Links) (taken : e.action = .reply call (.signature (.ok (some signed))))
      (issuer : Issuer) (read : DirectRead) (waited : s.calls.get? call = some ⟨i, .read (.sign issuer read)⟩) :
      Signs s e read.table signed

/-- Whether something was so when one of the events was taken. -/
def Once (settings : CacheSettings) (events : List Event) (so : Session → Event → Prop) : Prop :=
  ∃ later e earlier, events = later ++ e :: earlier ∧ so (run settings earlier) e

/-- Whether a scan of a table has joined the batch of a key. -/
def Joined (settings : CacheSettings) (events : List Event) (key : String) (table : TableReference) : Prop :=
  Once settings events fun s e => s.cache.holders key < (s.step e).cache.holders key ∧
    ((∃ i actions, Lists s e i table key actions) ∨ ∃ signed, Signs s e table signed)

/-- Whether a resolver has listed a table under a key. -/
def ListedBy (settings : CacheSettings) (events : List Event) (i : Nat) (key : String) (table : TableReference) :
    Prop :=
  Once settings events fun s e => ∃ actions, Lists s e i table key actions

/-- Whether a link of a file was listed or signed for a table. -/
def Provided (settings : CacheSettings) (events : List Event) (table : TableReference) (fileId : String)
    (link : Link) : Prop :=
  Once settings events fun s e =>
    (∃ i key actions, Lists s e i table key actions ∧
        ∃ action ∈ actions, action.id = fileId ∧ action.link? = some link) ∨
      ∃ signed, Signs s e table signed ∧ signed.get? fileId = some link

/-- The table that a read names to the service that it waits for. -/
def Stage.signsFor? : Stage → Option TableReference
  | .read (.cached (.sign _ refresh)) => some refresh.table
  | .read (.sign _ direct) => some direct.table
  | _ => none

/-- The link that a read has handed out. -/
def Stage.link? : Stage → Option Link
  | .read (.cached (.done (.ok found))) => some found
  | .link (.ok signed) => some signed
  | _ => none

variable {settings : CacheSettings} {events : List Event} {so : Session → Event → Prop} {e : Event} {call i : Nat}
  {r : Resolver} {key fileId : String} {table : TableReference} {link : Link} {file : EntryKey} {cached : Bool}
  {stage : Stage}

theorem once_cons : Once settings (e :: events) so ↔ so (run settings events) e ∨ Once settings events so := by
  constructor
  · rintro ⟨later, e', earlier, split, held⟩
    cases later with
    | nil =>
      cases split
      exact Or.inl held
    | cons first later =>
      cases split
      exact Or.inr ⟨later, e', earlier, rfl, held⟩
  · rintro (held | ⟨later, e', earlier, rfl, held⟩)
    · exact ⟨[], e, events, rfl, held⟩
    · exact ⟨e :: later, e', earlier, rfl, held⟩

theorem Once.later (once : Once settings events so) (e : Event) : Once settings (e :: events) so :=
  once_cons.mpr (Or.inr once)

theorem Once.now (held : so (run settings events) e) : Once settings (e :: events) so := once_cons.mpr (Or.inl held)

/-- Whether a cache has links and tables of scans that share their key only. -/
def Vouches (settings : CacheSettings) (events : List Event) (c : Cache) : Prop :=
  c.Admits (fun key link => ∃ table, Joined settings events key.tableKey table ∧
    Provided settings events table key.fileId link) (Joined settings events)

theorem Vouches.later {c : Cache} (vouches : Vouches settings events c) (e : Event) :
    Vouches settings (e :: events) c := by
  refine vouches.imp ?_ fun key table joined => joined.later e
  rintro key link ⟨table, joined, provided⟩
  exact ⟨table, joined.later e, provided.later e⟩

/-- How far a read of a file can have come, in the cache or without it, if it stays with
the tables that share the key of the file. -/
inductive Reads (settings : CacheSettings) (events : List Event) (i : Nat) (file : EntryKey) : Bool → Stage → Prop
  | waits (limit : Seconds) (l : Cache.Lookup) (own : l.key = file) :
      Reads settings events i file true (.read (.cached (.wait limit l)))
  | refreshes (issuer : Issuer) (refresh : Cache.Refresh) (own : refresh.key = file)
      (named : Joined settings events file.tableKey refresh.table) :
      Reads settings events i file true (.read (.cached (.sign issuer refresh)))
  | finds (link : Link) (table : TableReference) (named : Joined settings events file.tableKey table)
      (given : Provided settings events table file.fileId link) :
      Reads settings events i file true (.read (.cached (.done (.ok link))))
  | misses (fault : Fault) : Reads settings events i file true (.read (.cached (.done (.error fault))))
  | asks (issuer : Issuer) (direct : DirectRead) (own : direct.fileId = file.fileId)
      (named : ListedBy settings events i file.tableKey direct.table) :
      Reads settings events i file false (.read (.sign issuer direct))
  | gets (link : Link) (table : TableReference) (named : ListedBy settings events i file.tableKey table)
      (given : Provided settings events table file.fileId link) : Reads settings events i file false (.link (.ok link))
  | fails (cached : Bool) (e : ScanError) : Reads settings events i file cached (.read (.failed e))
  | lacks (e : ScanError) : Reads settings events i file false (.link (.error e))

/-- Whether what a call keeps comes from scans that share its key. -/
def Owns (settings : CacheSettings) (events : List Event) (i : Nat) : Stage → Prop
  | .scan (.sign registration) => ∀ fileId link, registration.filling.listed.get? fileId = some link →
      Provided settings events registration.filling.table fileId link
  | .scan _ => True
  | stage => ∃ file cached, Reads settings events i file cached stage

theorem Reads.later (reads : Reads settings events i file cached stage) (e : Event) :
    Reads settings (e :: events) i file cached stage := by
  cases reads with
  | waits limit l own => exact .waits limit l own
  | refreshes issuer refresh own named => exact .refreshes issuer refresh own (named.later e)
  | finds link table named given => exact .finds link table (named.later e) (given.later e)
  | misses fault => exact .misses fault
  | asks issuer direct own named => exact .asks issuer direct own (named.later e)
  | gets link table named given => exact .gets link table (named.later e) (given.later e)
  | fails cached error => exact .fails cached error
  | lacks error => exact .lacks error

theorem Reads.owns (reads : Reads settings events i file cached stage) : Owns settings events i stage := by
  cases stage with
  | scan => cases reads
  | read | link => exact ⟨file, cached, reads⟩

theorem Owns.later {stage : Stage} (owns : Owns settings events i stage) (e : Event) :
    Owns settings (e :: events) i stage := by
  cases stage with
  | scan progress =>
    cases progress with
    | sign registration => exact fun fileId link found => (owns fileId link found).later e
    | done | metadata | files | changes => trivial
  | read progress | link result =>
    obtain ⟨file, cached, reads⟩ := owns
    exact ⟨file, cached, reads.later e⟩

/-- Whether everything in a session comes from scans that share its key. -/
structure Legit (settings : CacheSettings) (events : List Event) (s : Session) : Prop where
  cache : Vouches settings events s.cache
  tables : ∀ i r, s.resolvers[i]? = some r → ∀ key table, r.tables.get? key = some table →
    ListedBy settings events i key table
  calls : ∀ call i stage, s.calls.get? call = some ⟨i, stage⟩ → Owns settings events i stage

theorem Legit.later {s : Session} (legit : Legit settings events s) (e : Event) : Legit settings (e :: events) s where
  cache := legit.cache.later e
  tables i r known key table found := (legit.tables i r known key table found).later e
  calls call i stage before := (legit.calls call i stage before).later e

/-- What a stretch of a call may leave behind. -/
structure Leaves (settings : CacheSettings) (events : List Event) (i : Nat) (went : Site × Stage) : Prop where
  cache : ∀ c, went.1.cache = some c → Vouches settings events c
  tables : ∀ key table, went.1.resolver.tables.get? key = some table → ListedBy settings events i key table
  stage : Owns settings events i went.2

/-- A resolver that goes on leaves the tables of the others. -/
theorem Legit.tables_set {s : Session} {r' other : Resolver} {j : Nat} (legit : Legit settings events s)
    (known : s.resolvers[i]? = some r)
    (own : ∀ key table, r'.tables.get? key = some table → ListedBy settings events i key table)
    (there : (s.resolvers.set i r')[j]? = some other) :
    ∀ key table, other.tables.get? key = some table → ListedBy settings events j key table := by
  rw [getElem?_set_known known] at there
  split at there
  · rename_i same
    cases there
    exact same ▸ own
  · exact legit.tables j other there

theorem Legit.record {s : Session} (legit : Legit settings events s) (known : s.resolvers[i]? = some r)
    {went : Site × Stage} (leaves : Leaves settings events i went) : Legit settings events (s.record call i went) where
  cache := by
    unfold Session.record
    cases left : went.1.cache with
    | none => exact legit.cache
    | some c => exact leaves.cache c left
  tables _ _ := legit.tables_set known leaves.tables
  calls call' j stage reached := by
    rw [record_calls] at reached
    split at reached
    · cases reached
      exact leaves.stage
    · exact legit.calls call' j stage reached

/-- A stretch that changes neither the cache nor the tables of its resolver. -/
theorem Legit.unchanged {s : Session} (legit : Legit settings events s) (known : s.resolvers[i]? = some r)
    {r' : Resolver} (same : r'.tables = r.tables) {stage : Stage} (owns : Owns settings events i stage) :
    Leaves settings events i (⟨r', some s.cache⟩, stage) where
  cache c there := by
    cases there
    exact legit.cache
  tables := by
    dsimp only
    rw [same]
    exact legit.tables i r known
  stage := owns

/-- A batch that an event registers comes with the links that the event brings for its table. -/
theorem Vouches.register {m : Moment} {fileIds : List String} {links : Links} {refresher : Option Issuer}
    (vouches : Vouches settings (e :: events) (run settings events).cache)
    (registered : ((run settings events).step e).cache =
      ((run settings events).cache.register m key table fileIds links refresher).1)
    (brought : (∃ i actions, Lists (run settings events) e i table key actions) ∨
      ∃ signed, Signs (run settings events) e table signed)
    (given : ∀ fileId link, links.get? fileId = some link → Provided settings (e :: events) table fileId link) :
    Vouches settings (e :: events)
      ((run settings events).cache.register m key table fileIds links refresher).1 := by
  have joined : Joined settings (e :: events) key table := by
    refine .now ⟨?_, brought⟩
    rw [registered, Cache.holders_register]
    simp
  exact Cache.Admits.register vouches (fun fileId link found => ⟨table, joined, given fileId link found⟩) joined _ _

/-- The links of listed files get into the cache together with their table. -/
theorem Legit.registers {went : Site × ScanProgress} {listed kept : List FileAction}
    {outcome : Except ScanError ResolvedScan} (legit : Legit settings events (run settings events))
    (known : (run settings events).resolvers[i]? = some r)
    (lists : Lists (run settings events) e i table key listed) (part : kept ⊆ listed)
    (stepped : (run settings events).step e = (run settings events).record call i (went.map id .scan))
    (registers : Site.Registers ((run settings events).site r) e.moment table key kept outcome went) :
    Leaves settings (e :: events) i (went.map id .scan) := by
  have before := legit.later e
  have tables (key' : String) (table' : TableReference)
      (found : (r.rememberTable key table).tables.get? key' = some table') :
      ListedBy settings (e :: events) i key' table' := by
    rw [Resolver.rememberTable, OrderedMap.get?_insert] at found
    split at found
    · cases found
      rename_i same
      exact same ▸ .now ⟨listed, lists⟩
    · exact before.tables i r known key' table' found
  have provided (fileId : String) (link : Link)
      (source : ∃ action ∈ kept, action.id = fileId ∧ action.link? = some link) :
      Provided settings (e :: events) table fileId link := by
    obtain ⟨action, member, named, given⟩ := source
    exact .now (Or.inl ⟨i, key, listed, lists, action, part member, named, given⟩)
  cases registers with
  | uncached =>
    refine ⟨fun c there => ?_, tables, trivial⟩
    cases there
    exact before.cache
  | refuses cache caching =>
    refine ⟨fun c there => ?_, tables, trivial⟩
    cases (Site.linkCache?_eq_some_iff.mp caching).2
    cases there
    exact before.cache
  | asks cache caching service fresh =>
    refine ⟨fun c there => ?_, tables, fun fileId link found => ?_⟩
    · cases (Site.linkCache?_eq_some_iff.mp caching).2
      cases there
      exact before.cache
    · exact provided fileId link (Cache.Filling.ofListing_source found)
  -- Also where the clock fails after all, the links have been let in.
  | joins cache caching links complete source | breaks cache caching links complete source =>
    refine ⟨fun c there => ?_, tables, trivial⟩
    cases (Site.linkCache?_eq_some_iff.mp caching).2
    cases there
    exact before.cache.register (stepped ▸ rfl) (Or.inl ⟨i, listed, lists⟩)
      fun fileId link found => provided fileId link (source fileId link found)

/-- The links of files get into the cache together with the table that they were signed for. -/
theorem Legit.signs {went : Site × ScanProgress} {registration : Registration} {answer : Signature}
    (legit : Legit settings events (run settings events)) (known : (run settings events).resolvers[i]? = some r)
    (taken : e.action = .reply call (.signature answer))
    (waited : (run settings events).calls.get? call = some ⟨i, .scan (.sign registration)⟩)
    (stepped : (run settings events).step e = (run settings events).record call i (went.map id .scan))
    (signs : Site.Signs ((run settings events).site r) e.moment registration answer went) :
    Leaves settings (e :: events) i (went.map id .scan) := by
  have before := legit.later e
  cases signs with
  | uncached _ plain => cases plain
  | refuses => exact before.unchanged known rfl trivial
  -- Also where the clock fails after all, the links have been let in.
  | joins cache there signed links merged | breaks cache there signed links merged =>
    have signs : Signs (run settings events) e registration.filling.table signed :=
      .scan call i signed taken registration waited
    refine ⟨fun c left => ?_, before.tables i r known, trivial⟩
    cases there
    cases left
    refine before.cache.register (stepped ▸ rfl) (Or.inr ⟨signed, signs⟩) fun fileId link found => ?_
    rw [merged] at found
    obtain new | ⟨-, old⟩ := Option.or_eq_some_iff.mp found
    · exact .now (Or.inr ⟨signed, signs, new⟩)
    · have owns : Owns settings (e :: events) i (.scan (.sign registration)) := before.calls call i _ waited
      exact owns fileId link old

/-- What a stretch of a read finds in the cache stays with the tables of its key. -/
theorem Vouches.reads {c : Cache} {progress : Cache.ReadProgress} (vouches : Vouches settings events c)
    (looked : c.Looked file progress) : Reads settings events i file true (.read (.cached progress)) := by
  cases looked with
  | found link there =>
    obtain ⟨table, named, given⟩ := vouches.links file link there
    exact .finds link table named given
  | failed fault => exact .misses fault
  | waits limit l own => exact .waits limit l own
  | signs issuer refresh own named => exact .refreshes issuer refresh own (vouches.tables file.tableKey _ named)

/-- A read begins as a read of the file that its path leads to. -/
theorem Legit.begins {path : String} {decoded : FilePath} {m : Moment} {s : Session} (legit : Legit settings events s)
    (known : s.resolvers[i]? = some r) (leads : FilePath.decode r.settings.scheme path = .ok decoded) :
    let went := ((s.site r).read m path).map id Stage.read
    Leaves settings events i went ∧
      Reads settings events i ⟨decoded.tableLocation, decoded.fileId⟩ r.settings.linkCache went.2 := by
  intro went
  cases caching : r.settings.linkCache with
  | true =>
    have same : went = (⟨r, some (s.cache.get m decoded.tableLocation decoded.fileId).1⟩,
        .read (.cached (s.cache.get m decoded.tableLocation decoded.fileId).2)) := by
      simp [went, Site.read, site, leads, Site.linkCache?, caching]
    have reads : Reads settings events i ⟨decoded.tableLocation, decoded.fileId⟩ true
        (.read (.cached (s.cache.get m decoded.tableLocation decoded.fileId).2)) :=
      legit.cache.reads (s.cache.look_looked m (s.cache.beginLookup m ⟨decoded.tableLocation, decoded.fileId⟩))
    rw [same]
    refine ⟨⟨fun c left => ?_, legit.tables i r known, reads.owns⟩, reads⟩
    cases left
    exact legit.cache.look _
  | false =>
    have same : went = (⟨r, some s.cache⟩, .read (r.beginDirectRead path decoded)) := by
      simp [went, Site.read, site, leads, Site.linkCache?, caching]
    have reads : Reads settings events i ⟨decoded.tableLocation, decoded.fileId⟩ false
        (.read (r.beginDirectRead path decoded)) := by
      unfold Resolver.beginDirectRead
      split
      · exact .fails false _
      · exact .fails false _
      · rename_i table issuer listed served
        exact .asks issuer _ rfl (legit.tables i r known _ table listed)
    rw [same]
    exact ⟨legit.unchanged known rfl reads.owns, reads⟩

/-- A read goes on as a read of its file. -/
theorem Legit.read_goes_on {reply : Reply} {went : Site × Stage} (legit : Legit settings events (run settings events))
    (known : (run settings events).resolvers[i]? = some r)
    (before : (run settings events).calls.get? call = some ⟨i, stage⟩)
    (reads : Reads settings events i file cached stage) (taken : e.action = .reply call reply)
    (resumed : ((run settings events).site r).resume e.moment stage reply = some went) :
    Leaves settings (e :: events) i went ∧ Reads settings (e :: events) i file cached went.2 := by
  have later := legit.later e
  cases reads with
  | waits limit l own =>
    cases reply with
    | wakeUp =>
      cases resumed
      subst own
      have reads : Reads settings (e :: events) i l.key true
          (.read (.cached ((run settings events).cache.look e.moment l).2)) :=
        later.cache.reads (Cache.look_looked _ e.moment l)
      refine ⟨⟨fun c left => ?_, later.tables i r known, reads.owns⟩, reads⟩
      cases left
      exact later.cache.look l
    | metadata | files | changes | signature => cases resumed
  | refreshes issuer refresh own named =>
    cases reply with
    | signature answer =>
      cases resumed
      subst own
      have cache : Vouches settings (e :: events)
          ((run settings events).cache.finishRefresh e.moment refresh answer).1 := by
        refine later.cache.finishRefresh fun signed answered fileId link found => ⟨refresh.table, named.later e, ?_⟩
        subst answered
        exact .now (Or.inr ⟨signed, .refresh call i signed taken issuer refresh before, found⟩)
      have reads : Reads settings (e :: events) i refresh.key true
          (.read (.cached (.done ((run settings events).cache.finishRefresh e.moment refresh answer).2))) := by
        cases ended : ((run settings events).cache.finishRefresh e.moment refresh answer).2 with
        | error fault => exact .misses fault
        | ok link => exact cache.reads (.found link (Cache.finishRefresh_found ended))
      refine ⟨⟨fun c left => ?_, later.tables i r known, reads.owns⟩, reads⟩
      cases left
      exact cache
    | metadata | files | changes | wakeUp => cases resumed
  | asks issuer direct own named =>
    cases reply with
    | signature answer =>
      cases resumed
      have reads : Reads settings (e :: events) i file false (.link (direct.finish answer)) := by
        cases ended : direct.finish answer with
        | error fault => exact .lacks fault
        | ok link =>
          obtain ⟨signed, answered, found⟩ := direct.finish_eq_ok ended
          subst answered
          exact .gets link direct.table (named.later e)
            (.now (Or.inr ⟨signed, .read call i signed taken issuer direct before, own ▸ found⟩))
      exact ⟨later.unchanged known rfl reads.owns, reads⟩
    | metadata | files | changes | wakeUp => cases resumed
  | finds | misses | gets | fails | lacks => cases reply <;> cases resumed

/-- A scan goes on with what has been listed or signed for its table. -/
theorem Legit.scan_goes_on {progress : ScanProgress} {reply : Reply} {went : Site × Stage}
    (legit : Legit settings events (run settings events)) (known : (run settings events).resolvers[i]? = some r)
    (before : (run settings events).calls.get? call = some ⟨i, .scan progress⟩) (taken : e.action = .reply call reply)
    (resumed : ((run settings events).site r).resume e.moment (.scan progress) reply = some went)
    (stepped : (run settings events).step e = (run settings events).record call i went) :
    Leaves settings (e :: events) i went := by
  have later := legit.later e
  cases progress with
  | done result => cases reply <;> cases resumed
  | metadata check =>
    cases reply with
    | metadata answer =>
      cases resumed
      have checks := r.checked_checks check answer
      show Leaves settings (e :: events) i
        (⟨(r.checked check answer).1, some (run settings events).cache⟩, .scan (r.checked check answer).2)
      generalize r.checked check answer = went at checks
      cases checks with
      | fails r' planned | files r' planned =>
        obtain ⟨planned, rfl⟩ := planned
        exact later.unchanged known (by rfl) (by trivial)
    | files | changes | signature | wakeUp => cases resumed
  | files listing =>
    cases reply with
    | files answer =>
      cases resumed
      cases answer with
      | error fault => exact later.unchanged known rfl trivial
      | ok actions =>
        refine legit.registers known (.files call actions taken listing before r known) ?_ stepped
          (Site.register_registers ..)
        rw [Listing.kept, filesWithin_eq]
        exact (firstOf_sublist _ _).subset
    | metadata | changes | signature | wakeUp => cases resumed
  | changes listing =>
    cases reply with
    | changes answer =>
      cases resumed
      cases answer with
      | error fault => exact later.unchanged known rfl trivial
      | ok changes =>
        exact legit.registers known (.changes call changes taken listing before r known)
          (changes.actions_within_sublist listing.limit).subset stepped (Site.register_registers ..)
    | metadata | files | signature | wakeUp => cases resumed
  | sign registration =>
    cases reply with
    | signature answer =>
      cases resumed
      exact legit.signs known taken before stepped (Site.signed_signs ..)
    | metadata | files | changes | wakeUp => cases resumed

/-- A stretch of a call lets nothing in but what its scan brings, or a service has signed for it. -/
theorem Legit.goes {went : Site × Stage} (legit : Legit settings events (run settings events))
    (goes : Goes (run settings events) e call i r went)
    (stepped : (run settings events).step e = (run settings events).record call i went) :
    Leaves settings (e :: events) i went := by
  have later := legit.later e
  cases goes with
  | scans purpose table params taken unused known =>
    refine later.unchanged known rfl ?_
    have begins := r.begin_begins purpose table params
    generalize r.begin purpose table params = progress at begins
    cases begins <;> trivial
  | scansBatch table actions start last taken unused known =>
    simp only [Site.resolveBatch] at stepped ⊢
    cases fingerprinted : Fingerprint.range start last with
    | error e => exact later.unchanged known rfl trivial
    | ok fingerprint =>
      simp only [fingerprinted] at stepped
      exact legit.registers known (.batch call table actions start last taken unused r known fingerprint fingerprinted)
        (List.Subset.refl _) stepped (Site.register_registers ..)
  | reads path taken unused known =>
    cases leads : FilePath.decode r.settings.scheme path with
    | error fault =>
      simp only [Site.read, site, leads]
      -- The read has ended before it came to a file, so any file will do.
      have reads : Reads settings (e :: events) i ⟨path, path⟩ false (.read (.failed (.path fault))) := .fails false _
      exact later.unchanged known rfl reads.owns
    | ok file => exact (later.begins known leads).1
  | resumes reply taken stage before known resumed =>
    have owns := legit.calls call i stage before
    cases stage with
    | scan progress => exact legit.scan_goes_on known before taken resumed stepped
    | read | link =>
      obtain ⟨file, cached, reads⟩ := owns
      exact (legit.read_goes_on known before reads taken resumed).1

/-- By induction over the history: an event adds to what came before it, and only
a call that goes on lets links or tables in. -/
theorem legit_run (settings : CacheSettings) (events : List Event) : Legit settings events (run settings events) := by
  induction events with
  | nil => exact ⟨Cache.admits_new settings, fun _ _ known => (nomatch known), fun _ _ _ reached => (nomatch reached)⟩
  | cons e events legit =>
    have later := legit.later e
    obtain same | move := step_moves (run settings events) e
    · show Legit settings (e :: events) ((run settings events).step e)
      rwa [same]
    · show Legit settings (e :: events) ((run settings events).step e)
      generalize stepped : (run settings events).step e = s' at move
      cases move with
      | enters resolver location mark issuer =>
        refine ⟨later.cache, fun j r known key table found => ?_, later.calls⟩
        rw [List.getElem?_append] at known
        split at known
        · exact later.tables j r known key table found
        · obtain ⟨_, rfl⟩ := List.getElem?_eq_some_iff.mp known
          simp [Resolver.new] at found
      | plans j version answer r taken known =>
        obtain ⟨planned, same⟩ := r.plan_planned version answer
        refine ⟨later.cache, fun _ _ => later.tables_set known ?_, later.calls⟩
        rw [same]
        exact later.tables j r known
      | goes call j r went goes => exact later.record goes.known (legit.goes goes stepped)
      | closes j r taken known =>
        exact ⟨later.cache.releases r.registered,
          fun _ _ => later.tables_set known (later.tables j r known), later.calls⟩
      | sweeps => exact ⟨later.cache.sweep, later.tables, later.calls⟩

end Session
end SharedTables
