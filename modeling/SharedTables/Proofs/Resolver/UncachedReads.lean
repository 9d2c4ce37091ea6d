import SharedTables.Proofs.Resolver.Bypass
import SharedTables.Proofs.Resolver.Provenance

/-! Reads of resolvers that keep no links in the cache. Each of them lets a
service sign its file, for the table that was last listed under the key of the
path. That is the table of the last scan that was handed out under the key,
unless a scan has been listed since and has failed afterwards. -/
namespace SharedTables.Session

/-- Whether a stage is the end of a scan that has a result. -/
def Stage.isScan : Stage → Bool
  | .scan (.done (.ok _)) => true
  | _ => false

/-- The table that an event lists for a scan that it hands out. -/
def handed? (s : Session) (e : Event) : Option TableListing :=
  if (e.call?.bind (s.step e).calls.get?).any (·.stage.isScan) then s.listing? e else none

/-- The table that events have brought last under a key of a resolver, the latest event first. -/
def latest (brings : Session → Event → Option TableListing) (settings : CacheSettings) (i : Nat) (key : String) :
    List Event → Option TableReference
  | [] => none
  | e :: earlier =>
    (((brings (run settings earlier) e).filter fun listing => listing.resolver = i ∧ listing.key = key).map
      (·.table)).or (latest brings settings i key earlier)

/-- The table that has been listed last under a key. -/
abbrev lastListed := latest listing?

/-- The table of the last scan that has been handed out under a key. -/
abbrev lastHanded := latest handed?

/-- Whether an event lists a table for a scan that fails with it, as its metadata give no partition schema. -/
def FailsToHand (s : Session) (e : Event) (listing : TableListing) : Prop :=
  s.listing? e = some listing ∧ ∃ call stage, e.call? = some call ∧
    s.calls.get? call = some ⟨listing.resolver, stage⟩ ∧ stage.Unpartitioned

/-- Whether a resolver remembers the tables that have been listed for it, and its
scans that have been handed out are among these. -/
structure Records (settings : CacheSettings) (events : List Event) (i : Nat) (r : Resolver) : Prop where
  tables : ∀ key, r.tables.get? key = lastListed settings i key events
  handed : ∀ call scan, (run settings events).calls.get? call = some ⟨i, .scan (.done (.ok scan))⟩ →
    ∀ file ∈ scan.files, file.tableKey ≠ "" ∧ file.scheme = r.settings.scheme ∧
      (lastHanded settings i file.tableKey events).isSome
  failed : ∀ key, lastListed settings i key events = lastHanded settings i key events ∨
    ∃ table, lastListed settings i key events = some table ∧
      Once settings events fun s e => s.FailsToHand e ⟨i, key, table⟩

section

variable {s : Session} {settings : CacheSettings} {e : Event} {earlier events : List Event} {i : Nat}
  {r r' : Resolver} {key : String} {table : TableReference} {listing : TableListing}
  {brings : Session → Event → Option TableListing}

/-- Only a call that goes on lists a table. -/
theorem listing?_goes (listed : s.listing? e = some listing) :
    ∃ call r went, Goes s e call listing.resolver r went := by
  unfold listing? at listed
  split at listed
  · rename_i call i table actions start last taken
    split at listed
    · rename_i r unused known
      obtain ⟨fingerprint, -, rfl⟩ := Option.map_eq_some_iff.mp listed
      exact ⟨call, r, _, .scansBatch table actions start last taken unused known⟩
    · cases listed
  · rename_i call reply taken
    split at listed
    · cases listed
    · rename_i i stage before
      split at listed
      · cases listed
      · rename_i r known
        obtain ⟨brought, lists, rfl⟩ := Option.map_eq_some_iff.mp listed
        unfold Resolver.lists? at lists
        split at lists
        · exact ⟨call, r, _, .resumes _ taken _ before known rfl⟩
        · exact ⟨call, r, _, .resumes _ taken _ before known rfl⟩
        · cases lists
  · cases listed

theorem listing?_of_handed? (handed : s.handed? e = some listing) : s.listing? e = some listing := by
  unfold handed? at handed
  split at handed
  · exact handed
  · cases handed

theorem latest_cons (brought : brings (run settings earlier) e = some ⟨i, key, table⟩) (other : String) :
    latest brings settings i other (e :: earlier) =
      if other = key then some table else latest brings settings i other earlier := by
  rw [latest, brought]
  split <;> simp_all [Option.filter, eq_comm]

/-- An event that brings nothing for a resolver leaves the tables that it has. -/
theorem latest_cons_quiet (quiet : ∀ listing, brings (run settings earlier) e = some listing → listing.resolver ≠ i)
    (key : String) : latest brings settings i key (e :: earlier) = latest brings settings i key earlier := by
  have nothing : (brings (run settings earlier) e).filter
      (fun listing => listing.resolver = i ∧ listing.key = key) = none := by
    refine Option.filter_eq_none_iff.mpr fun listing brought => ?_
    simp [quiet listing brought]
  rw [latest, nothing]
  rfl

theorem Records.quiet (records : Records settings earlier i r) (tables : r'.tables = r.tables)
    (same : r'.settings = r.settings)
    (unlisted : ∀ listing, (run settings earlier).listing? e = some listing → listing.resolver ≠ i)
    (calls : ∀ call scan, (run settings (e :: earlier)).calls.get? call = some ⟨i, .scan (.done (.ok scan))⟩ →
      (run settings earlier).calls.get? call = some ⟨i, .scan (.done (.ok scan))⟩) :
    Records settings (e :: earlier) i r' := by
  have listed (key : String) : lastListed settings i key (e :: earlier) = lastListed settings i key earlier :=
    latest_cons_quiet unlisted key
  have handed (key : String) : lastHanded settings i key (e :: earlier) = lastHanded settings i key earlier :=
    latest_cons_quiet (fun listing brought => unlisted listing (listing?_of_handed? brought)) key
  refine ⟨fun key => ?_, fun call scan reached => ?_, fun key => ?_⟩
  · rw [tables, listed]
    exact records.tables key
  · intro file member
    rw [handed, same]
    exact records.handed call scan (calls call scan reached) file member
  · rw [listed, handed]
    refine (records.failed key).imp_right ?_
    rintro ⟨table, last, failed⟩
    exact ⟨table, last, failed.later e⟩

/-- A resolver starts without records; nothing has been listed for it before it came. -/
theorem records_new (unknown : (run settings events).resolvers[i]? = none) (r : Resolver)
    (fresh : ∀ key, r.tables.get? key = none) : Records settings events i r := by
  have nothing (key : String) : lastListed settings i key events = none ∧ lastHanded settings i key events = none := by
    induction events with
    | nil => exact ⟨rfl, rfl⟩
    | cons e earlier ih =>
      have before : (run settings earlier).resolvers[i]? = none := by
        refine Option.eq_none_iff_forall_ne_some.mpr fun old known => ?_
        obtain same | change := step_cases (run settings earlier) e
        · rw [run, same, known] at unknown
          cases unknown
        · obtain ⟨_, still, -⟩ := change.keeps_resolver known
          cases still.symm.trans unknown
      have unlisted (listing : TableListing) (listed : (run settings earlier).listing? e = some listing) :
          listing.resolver ≠ i := by
        rintro rfl
        obtain ⟨call, r, went, goes⟩ := listing?_goes listed
        cases goes.known.symm.trans before
      obtain ⟨listed, handed⟩ := ih before
      exact ⟨(latest_cons_quiet unlisted key).trans listed,
        (latest_cons_quiet (fun listing brought => unlisted listing (listing?_of_handed? brought)) key).trans handed⟩
  refine ⟨fun key => (fresh key).trans (nothing key).1.symm, fun call scan reached => ?_, fun key => Or.inl ?_⟩
  · obtain ⟨old, known, -⟩ := (kept_run settings events).1.calls call i _ reached
    cases unknown.symm.trans known
  · rw [(nothing key).1, (nothing key).2]

theorem handed?_eq {call : Nat} {stage : Stage} (called : e.call? = some call)
    (reached : (s.step e).calls.get? call = some ⟨i, stage⟩) :
    s.handed? e = if stage.isScan then s.listing? e else none := by
  simp [handed?, called, reached]

theorem Records.tables_listed (records : Records settings earlier i r)
    (brought : (run settings earlier).listing? e = some ⟨i, key, table⟩) (other : String) :
    (r.rememberTable key table).tables.get? other = lastListed settings i other (e :: earlier) := by
  rw [lastListed, latest_cons brought, Resolver.rememberTable, OrderedMap.get?_insert, records.tables]

/-- A scan that is handed out brings its table under its key. -/
theorem Records.hands_out {scan : ResolvedScan} (records : Records settings earlier i r)
    (brought : (run settings earlier).listing? e = some ⟨i, key, table⟩)
    (returned : (run settings earlier).handed? e = some ⟨i, key, table⟩)
    (fits : ∀ file ∈ scan.files, file.tableKey = key ∧ key ≠ "" ∧ file.scheme = r.settings.scheme)
    (calls : ∀ call scan', (run settings (e :: earlier)).calls.get? call = some ⟨i, .scan (.done (.ok scan'))⟩ →
      scan' = scan ∨ (run settings earlier).calls.get? call = some ⟨i, .scan (.done (.ok scan'))⟩) :
    Records settings (e :: earlier) i (r.rememberTable key table) := by
  have last (other : String) : lastHanded settings i other (e :: earlier) =
      if other = key then some table else lastHanded settings i other earlier := latest_cons returned other
  refine ⟨records.tables_listed brought, fun call scan' reached file member => ?_, fun other => ?_⟩
  · obtain rfl | old := calls call scan' reached
    · obtain ⟨rfl, keyed, scheme⟩ := fits file member
      refine ⟨keyed, scheme, ?_⟩
      rw [last, if_pos rfl]
      rfl
    · obtain ⟨keyed, scheme, known⟩ := records.handed call scan' old file member
      refine ⟨keyed, scheme, ?_⟩
      rw [last]
      split
      · rfl
      · exact known
  · rw [last, lastListed, latest_cons brought]
    split
    · exact Or.inl rfl
    · exact (records.failed other).imp_right fun failed => failed.imp fun table failed =>
        ⟨failed.1, failed.2.later e⟩

/-- A scan that fails after its listing brings its table too, but is not handed out. -/
theorem Records.hands_nothing (records : Records settings earlier i r)
    (fails : (run settings earlier).FailsToHand e ⟨i, key, table⟩)
    (unreturned : (run settings earlier).handed? e = none)
    (calls : ∀ call scan, (run settings (e :: earlier)).calls.get? call = some ⟨i, .scan (.done (.ok scan))⟩ →
      (run settings earlier).calls.get? call = some ⟨i, .scan (.done (.ok scan))⟩) :
    Records settings (e :: earlier) i (r.rememberTable key table) := by
  have last (other : String) : lastHanded settings i other (e :: earlier) = lastHanded settings i other earlier :=
    latest_cons_quiet (fun listing brought => by simp [unreturned] at brought) other
  refine ⟨records.tables_listed fails.1, fun call scan reached file member => ?_, fun other => ?_⟩
  · rw [last]
    exact records.handed call scan (calls call scan reached) file member
  · rw [last, lastListed, latest_cons fails.1]
    split
    · rename_i same
      exact Or.inr ⟨table, rfl, .now (same ▸ fails)⟩
    · exact (records.failed other).imp_right fun failed => failed.imp fun table failed =>
        ⟨failed.1, failed.2.later e⟩

/-- What a call that goes on brings for its own resolver. -/
theorem Records.goes {call : Nat} {went : Site × Stage} (records : Records settings earlier i r)
    (uncached : r.settings.linkCache = false) (goes : Goes (run settings earlier) e call i r went) :
    Records settings (e :: earlier) i went.1.resolver := by
  obtain ⟨before, listed, was, listing, plainly⟩ := (secluded_run settings earlier).goes goes uncached
  have stepped : (run settings (e :: earlier)).calls.get? call = some ⟨i, went.2⟩ := by
    rw [run, goes.step_eq, record_calls, if_pos rfl]
  have others (other : Nat) (scan : ResolvedScan)
      (reached : (run settings (e :: earlier)).calls.get? other = some ⟨i, .scan (.done (.ok scan))⟩) :
      went.2 = .scan (.done (.ok scan)) ∨
        (run settings earlier).calls.get? other = some ⟨i, .scan (.done (.ok scan))⟩ := by
    rw [run, goes.step_eq, record_calls] at reached
    split at reached
    · exact Or.inl (congrArg Call.stage (Option.some.inj reached))
    · exact Or.inr reached
  have handed := handed?_eq (s := run settings earlier) goes.call?_eq stepped
  generalize went.1.resolver = r', went.2 = after at plainly others handed
  cases plainly with
  | goesOn r' after alike tables plain going =>
    refine records.quiet tables alike.settings (by simp [listing]) fun other scan reached => ?_
    exact (others other scan reached).resolve_left (going scan)
  | lists key table fileIds outcome fits fails =>
    have brought : (run settings earlier).listing? e = some ⟨i, key, table⟩ := listing
    cases outcome with
    | ok scan =>
      have expects (stage : Stage) (same : before = some stage) : r.Expects stage := by
        subst same
        obtain ⟨r', known, expects⟩ := (kept_run settings earlier).1.calls call i stage was
        cases goes.known.symm.trans known
        exact expects
      have held (file : FileReference) (member : file ∈ scan.files) :
          file.tableKey = key ∧ key ≠ "" ∧ file.scheme = r.settings.scheme := by
        obtain ⟨keyed, named, -, scheme⟩ := fits expects scan rfl file member
        exact ⟨keyed, named, scheme⟩
      refine records.hands_out brought (handed.trans brought) held fun other scan' reached => ?_
      refine (others other scan' reached).imp_left fun new => ?_
      cases new
      rfl
    | error cause =>
      obtain ⟨stage, rfl, unpartitioned⟩ := fails cause rfl
      refine records.hands_nothing ⟨brought, call, stage, goes.call?_eq, was, unpartitioned⟩ handed ?_
      exact fun other scan reached => (others other scan reached).resolve_left (by simp)

/-- An event at which no call goes on changes nothing about listings. -/
theorem Records.rests (records : ∀ r, (run settings earlier).resolvers[i]? = some r →
      r.settings.linkCache = false → Records settings earlier i r)
    (rests : ∀ call j r went, ¬ Goes (run settings earlier) e call j r went)
    (known : (run settings (e :: earlier)).resolvers[i]? = some r) (uncached : r.settings.linkCache = false) :
    Records settings (e :: earlier) i r := by
  have unlisted (listing : TableListing) (listed : (run settings earlier).listing? e = some listing) :
      listing.resolver ≠ i := by
    obtain ⟨call, r, went, goes⟩ := listing?_goes listed
    exact absurd goes (rests call _ r went)
  have move := step_moves (run settings earlier) e
  rw [run] at known
  have calls (same : ((run settings earlier).step e).calls = (run settings earlier).calls) (call : Nat)
      (scan : ResolvedScan)
      (reached : (run settings (e :: earlier)).calls.get? call = some ⟨i, .scan (.done (.ok scan))⟩) :
      (run settings earlier).calls.get? call = some ⟨i, .scan (.done (.ok scan))⟩ := by
    rwa [run, same] at reached
  generalize (run settings earlier).step e = s' at known move calls
  obtain same | move := move
  · rw [same] at known calls
    exact (records r known uncached).quiet rfl rfl unlisted (calls rfl)
  · cases move with
    | enters fresh location mark issuer =>
      rw [List.getElem?_append] at known
      split at known
      · exact (records r known uncached).quiet rfl rfl unlisted (calls rfl)
      · rename_i beyond
        obtain ⟨_, rfl⟩ := List.getElem?_eq_some_iff.mp known
        have new := records_new (List.getElem?_eq_none (Nat.not_lt.mp beyond)) (.new fresh location mark issuer)
          fun key => by simp [Resolver.new]
        simpa using new.quiet rfl rfl unlisted (calls rfl)
    | plans j version answer old taken before =>
      obtain ⟨planned, same⟩ := old.plan_planned version answer
      rw [getElem?_set_known before] at known
      split at known
      · rename_i own
        subst own
        cases known
        rw [same] at uncached ⊢
        exact (records old before uncached).quiet rfl rfl unlisted (calls rfl)
      · exact (records r known uncached).quiet rfl rfl unlisted (calls rfl)
    | goes call j old went goes => exact absurd goes (rests call j old went)
    | closes j old taken before =>
      rw [getElem?_set_known before] at known
      split at known
      · rename_i own
        subst own
        cases known
        exact (records old before uncached).quiet rfl rfl unlisted (calls rfl)
      · exact (records r known uncached).quiet rfl rfl unlisted (calls rfl)
    | sweeps => exact (records r known uncached).quiet rfl rfl unlisted (calls rfl)

theorem Goes.resolverOf?_eq {call : Nat} {went : Site × Stage} (goes : Goes s e call i r went) :
    s.resolverOf? e = some i := by
  cases goes with
  | scans _ _ _ taken | scansBatch _ _ _ _ taken | reads _ taken => simp only [resolverOf?, taken]
  | resumes _ taken stage before => simp only [resolverOf?, taken, before, Option.map_some]

theorem records_run (known : (run settings events).resolvers[i]? = some r) (uncached : r.settings.linkCache = false) :
    Records settings events i r := by
  induction events generalizing r with
  | nil => cases known
  | cons e earlier ih =>
    by_cases going : ∃ call j r went, Goes (run settings earlier) e call j r went
    · obtain ⟨call, j, old, went, goes⟩ := going
      obtain ⟨now, there, settings', -⟩ := goes.change.keeps_resolver goes.known
      rw [run, goes.step_eq, record, getElem?_set_known goes.known] at known
      rw [record, getElem?_set_known goes.known, if_pos rfl] at there
      cases there
      split at known
      · rename_i own
        subst own
        cases known
        have before : old.settings.linkCache = false := settings' ▸ uncached
        exact (ih goes.known before).goes before goes
      · rename_i other
        refine (ih known uncached).quiet rfl rfl (fun listing listed => ?_) fun call' scan reached => ?_
        · obtain ⟨_, _, _, goes'⟩ := listing?_goes listed
          have same := goes.resolverOf?_eq.symm.trans goes'.resolverOf?_eq
          exact fun own => other ((Option.some.inj same).trans own).symm
        · rw [run, goes.step_eq, record_calls] at reached
          split at reached
          · exact absurd (congrArg Call.resolver (Option.some.inj reached)).symm other
          · exact reached
    · refine Records.rests (fun r known uncached => ih known uncached) ?_ known uncached
      exact fun call j r went goes => going ⟨call, j, r, went, goes⟩

/-- How far a read of a single file is once a service has answered it, or has not. -/
def directStage (issuer : Issuer) (direct : DirectRead) : Option Signature → Stage
  | none => .read (.sign issuer direct)
  | some answer => .link (direct.finish answer)

variable {call : Nat}

/-- A read without the cache begins with the table that its resolver remembers. -/
theorem direct_begins {m : Moment} {path : String} {file : FilePath} (known : s.resolvers[i]? = some r)
    (uncached : r.settings.linkCache = false) (unused : s.calls.get? call = none)
    (decoded : FilePath.decode r.settings.scheme path = .ok file) :
    (s.step ⟨m, .read call i path⟩).calls.get? call = some ⟨i, .read (r.beginDirectRead path file)⟩ := by
  have goes : Goes s ⟨m, .read call i path⟩ call i r (((s.site r).read m path).map id .read) :=
    .reads path rfl unused known
  rw [goes.step_eq, record_calls, if_pos rfl]
  simp [Site.read, site, decoded, Site.linkCache?, uncached]

/-- A read that a service is asked for waits for the first signature, and ends with it. -/
theorem direct_run {issuer : Issuer} {direct : DirectRead}
    (begun : (run settings events).calls.get? call = some ⟨i, directStage issuer direct none⟩) (later : List Event) :
    (run settings (later ++ events)).calls.get? call =
      some ⟨i, directStage issuer direct (firstAnswer Reply.signature? call later)⟩ := by
  induction later with
  | nil => exact begun
  | cons e later ih =>
    rw [List.cons_append, run, firstAnswer]
    cases answered : firstAnswer Reply.signature? call later with
    | some answer =>
      rw [answered] at ih
      exact step_stays ih fun reply _ site => by cases reply <;> rfl
    | none =>
      rw [answered] at ih
      rw [Option.none_or]
      cases given : (e.replyTo? call).bind Reply.signature? with
      | none =>
        refine step_stays ih fun reply taken site => ?_
        cases reply with
        | signature answer => simp [taken, Reply.signature?] at given
        | metadata | files | changes | wakeUp => rfl
      | some answer =>
        obtain ⟨reply, taken, signed⟩ := Option.bind_eq_some_iff.mp given
        obtain ⟨r, known, -⟩ := (kept_run settings (later ++ events)).1.calls call i _ ih
        cases reply with
        | signature answer' =>
          cases signed
          have goes : Goes (run settings (later ++ events)) e call i r
              ((run settings (later ++ events)).site r, .link (direct.finish answer)) :=
            .resumes _ (Event.replyTo?_eq_some_iff.mp taken) _ ih known rfl
          rw [goes.step_eq, record_calls, if_pos rfl]
          rfl
        | metadata | files | changes | wakeUp => cases signed

/-- A resolver that keeps no links in the cache neither reads the cache nor changes
it. Each of its reads lets a service sign once, for the table that was last listed
under the key of the file, and ends with what the service answers; a key for which
nothing has been listed is refused. Every file of a scan that has been handed out
can be read, and only a scan that fails after its listing leaves another table
under a key than that of the last scan handed out. -/
theorem uncached_resolver_shares_nothing (known : (run settings events).resolvers[i]? = some r)
    (uncached : r.settings.linkCache = false) :
    (∀ e, (run settings events).resolverOf? e = some i → (run settings events).Ignores e) ∧
    (∀ m call path file, (run settings events).calls.get? call = none →
      FilePath.decode r.settings.scheme path = .ok file → ∀ later,
      let after := (run settings (later ++ ⟨m, .read call i path⟩ :: events)).calls.get? call
      (∀ table issuer, lastListed settings i file.tableLocation events = some table → r.issuer = some issuer →
        after = some ⟨i, directStage issuer ⟨table, file.fileId⟩ (firstAnswer Reply.signature? call later)⟩ ∧
        ∀ link, after = some ⟨i, .link (.ok link)⟩ → ∃ signed,
          firstAnswer Reply.signature? call later = some (.ok (some signed)) ∧ signed.get? file.fileId = some link) ∧
      (lastListed settings i file.tableLocation events = none →
        after = some ⟨i, .read (.failed (.collaborator (.credential (.notResolved path))))⟩)) ∧
    (∀ call scan, (run settings events).calls.get? call = some ⟨i, .scan (.done (.ok scan))⟩ →
      ∀ file ∈ scan.files, file.fileId ≠ "" → ∃ path table, file.path = .ok path ∧
        FilePath.decode r.settings.scheme path = .ok ⟨file.tableKey, file.fileId, file.commitVersion⟩ ∧
        lastHanded settings i file.tableKey events = some table) ∧
    ∀ key, lastListed settings i key events = lastHanded settings i key events ∨
      ∃ table, lastListed settings i key events = some table ∧
        Once settings events fun s e => s.FailsToHand e ⟨i, key, table⟩ := by
  have records := records_run known uncached
  refine ⟨fun e own => (secluded_run settings events).ignores known uncached own, ?_, ?_, records.failed⟩
  · intro m call path file unused decoded later after
    have begun := direct_begins (m := m) known uncached unused decoded
    rw [Resolver.beginDirectRead, records.tables] at begun
    refine ⟨fun table issuer listed served => ?_, fun unlisted => ?_⟩
    · rw [listed, served] at begun
      have waits : (run settings (⟨m, .read call i path⟩ :: events)).calls.get? call =
          some ⟨i, directStage issuer ⟨table, file.fileId⟩ none⟩ := begun
      have stage := direct_run waits later
      refine ⟨stage, fun link ended => ?_⟩
      have found := congrArg Call.stage (Option.some.inj (stage.symm.trans ended))
      cases answered : firstAnswer Reply.signature? call later with
      | none => simp [answered, directStage] at found
      | some answer =>
        rw [answered] at found
        obtain ⟨signed, rfl, there⟩ := DirectRead.finish_eq_ok (Stage.link.inj found)
        exact ⟨signed, rfl, there⟩
    · rw [unlisted] at begun
      induction later with
      | nil => exact begun
      | cons e later ih => exact step_stays ih fun reply _ site => by cases reply <;> rfl
  · intro call scan reached file member named
    obtain ⟨keyed, scheme, handed⟩ := records.handed call scan reached file member
    obtain ⟨path, encoded, decoded⟩ := FileReference.decode_path named keyed
    obtain ⟨table, last⟩ := Option.isSome_iff_exists.mp handed
    exact ⟨path, table, encoded, scheme ▸ decoded, last⟩

/-- A file of a batch is signed for the table of the batch. -/
theorem uncached_file_is_signed_for_its_table :
    let settings : CacheSettings := ⟨none, 0, 10, 10, 60⟩
    let plain : ResolverSettings := ⟨⟨true, false⟩, true, false, .exact, .lazy, "share"⟩
    let table : TableReference := ⟨"share", "schema", "orders"⟩
    let listed : FileAction := ⟨"part-1", "", none, .empty, none, none, none, none⟩
    let key := "orders_1_8bd494a0bfba6015afae3116a84cb92ea0eef03e74989ffe96e0b012c63e3741"
    let path := "share:/" ++ key ++ "/part-1/0"
    let signed : Link := ⟨"https://signed.example.com/part-1", 10000⟩
    let now (action : Action) : Event := ⟨.still 0 0, action⟩
    let events := [now (.scanBatch 0 0 table [listed] 0 none), now (.enter plain "orders" "1" (some ⟨"service"⟩))]
    let answer := now (.reply 1 (.signature (.ok (some (.ofList [("part-1", signed)])))))
    lastHanded settings 0 key events = some table ∧
      (run settings (now (.read 1 0 path) :: events)).calls.get? 1 =
        some ⟨0, .read (.sign ⟨"service"⟩ ⟨table, "part-1"⟩)⟩ ∧
      (run settings (answer :: now (.read 1 0 path) :: events)).calls.get? 1 = some ⟨0, .link (.ok signed)⟩ := by
  intro settings plain table listed key path signed now events answer
  have entered : (run settings events).resolvers[0]?.map (fun r => (r.settings, r.issuer)) =
      some (plain, some ⟨"service"⟩) := by decide +kernel
  obtain ⟨r, known, own⟩ := Option.map_eq_some_iff.mp entered
  obtain ⟨own, served⟩ := Prod.mk.inj own
  have decoded : FilePath.decode r.settings.scheme path = .ok ⟨key, "part-1", 0⟩ := by
    rw [own]
    decide +kernel
  have last : lastListed settings 0 key events = some table := by decide +kernel
  obtain ⟨-, reads, -⟩ := uncached_resolver_shares_nothing known (own ▸ rfl)
  have read := reads (.still 0 0) 1 path ⟨key, "part-1", 0⟩ (by decide +kernel) decoded
  refine ⟨by decide +kernel, ((read []).1 table ⟨"service"⟩ last served).1, ?_⟩
  exact ((read [answer]).1 table ⟨"service"⟩ last served).1

/-- Two tables are listed under one key. The scan of the second fails, as it has no
column that it is to be partitioned by, and yet the file of the first is signed for it. -/
theorem failed_scan_changes_the_table :
    let settings : CacheSettings := ⟨none, 0, 10, 10, 60⟩
    let plain : ResolverSettings := ⟨⟨true, false⟩, true, false, .exact, .lazy, "share"⟩
    let orders : TableReference := ⟨"share", "schema", "orders"⟩
    let payroll : TableReference := ⟨"share", "schema", "payroll"⟩
    let latest : ScanParameters := ⟨[], [], none, none, false⟩
    let metadata : TableMetadata := ⟨"\x7b\"type\":\"struct\",\"fields\":[]\x7d", ["region"]⟩
    let listed : FileAction := ⟨"part-1", "", none, .empty, none, none, none, none⟩
    let key := "orders_1_68442b52be8f16413c507cd88f22e00bfb204712c68c53ee17da0dd8ed6e88f0"
    let path := "share:/" ++ key ++ "/part-1/0"
    let now (action : Action) : Event := ⟨.still 0 0, action⟩
    let events :=
      [now (.reply 1 (.files (.ok [listed]))), now (.reply 1 (.metadata (.ok metadata))),
        now (.scan 1 0 .rows payroll latest), now (.reply 0 (.files (.ok [listed]))),
        now (.reply 0 (.metadata (.ok metadata))), now (.scan 0 0 .inputs orders latest),
        now (.enter plain "orders" "1" (some ⟨"service"⟩))]
    lastHanded settings 0 key events = some orders ∧
      ((run settings (now (.read 2 0 path) :: events)).calls.get? 2).map (·.stage.signsFor?) = some (some payroll) := by
  intro settings plain orders payroll latest metadata listed key path now events
  constructor <;> decide +kernel

end

end SharedTables.Session
