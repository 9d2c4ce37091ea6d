import SharedTables.Proofs.Resolver.Scans

/-! Scans that fail. They leave the cache and the records of their resolver
alone, except where the batch has been registered before the failure: the
partition schema is derived after that, although it follows from metadata that
were there before the listing. -/
namespace SharedTables

variable {r : Resolver} {request : ScanRequest} {turn : Turn} {earlier : List Turn} {place : ScanPlace}
  {listed : Listed} {e : ScanError}

namespace Turn

/-- Whether a turn has every link that the scan must have to be registered: none is
lacking when the files are listed, or a service has just signed. -/
def Supplied (turn : Turn) (place : ScanPlace) (listed : Listed) : Prop :=
  ∃ cache, turn.found.linkCache? = some cache ∧
    ((∀ answer, turn.reply ≠ some (.signature answer)) ∧
        cache.Complete turn.moment place.tableKey listed.actions turn.found.resolver.settings.population ∨
      ∃ signed, turn.reply = some (.signature (.ok (some signed))))

/-- Whether a turn adds one holder to the batch of a key. -/
def Counts (turn : Turn) (key : String) : Prop :=
  ∃ cache cache', turn.found.cache = some cache ∧ turn.left.cache = some cache' ∧
    ∀ other, cache'.holders other = cache.holders other + if other = key then 1 else 0

theorem Counts.not_idle {key : String} (counts : turn.Counts key) : ¬ turn.Idle := by
  obtain ⟨cache, cache', found, left, holders⟩ := counts
  rintro ⟨same, -⟩
  rw [found, left] at same
  cases same
  have grown := holders key
  simp at grown

end Turn

/-- Why a scan can fail after its batch has been registered: the metadata that it
was checked against give no partition schema, or the clock fails. -/
def FailsLate (r : Resolver) (request : ScanRequest) (turn : Turn) (earlier : List Turn) (key : String)
    (e : ScanError) : Prop :=
  (turn.left.resolver.registered = turn.found.resolver.registered ++ [key] ∧ ∃ listing,
      Awaited r request (turn :: earlier) listing ∧ listing.purpose = .rows ∧
        listing.metadata.partitionSchema = .error e) ∨
    turn.left.resolver.registered = turn.found.resolver.registered ∧
      ∃ fault, turn.moment.Fails fault ∧ e = .collaborator fault

/-- A scan that fails after its listing has been registered if it was supplied
with links, and has changed nothing otherwise. -/
theorem Course.failed (course : Course r request (turn :: earlier) (.done (.error e)))
    (given : Given r request (turn :: earlier) place listed) :
    turn.Supplied place listed ∧ turn.Counts place.tableKey ∧ FailsLate r request turn earlier place.tableKey e ∨
      ¬ turn.Supplied place listed ∧ turn.Idle := by
  cases course with
  | unlisted turn idle unlisted => exact absurd given (unlisted place listed)
  | lists m reply s s' own place' listed' given' outcome settled unasked went =>
    obtain ⟨rfl, rfl⟩ := given.unique given'
    have unsupplied (incomplete : ∀ cache, s.linkCache? = some cache →
        ¬ cache.Complete m place.tableKey listed.actions s.resolver.settings.population) (s' : Site) :
        ¬ Turn.Supplied ⟨m, reply, s, s'⟩ place listed := by
      rintro ⟨cache, caching, ⟨-, complete⟩ | ⟨signed, answered⟩⟩
      · exact incomplete cache caching complete
      · exact unasked _ answered
    cases went with
    | uncached plain =>
      exact Or.inr ⟨unsupplied (fun cache found => (nomatch plain.symm.trans found)) _, rfl, rfl⟩
    | refuses cache caching fault incomplete =>
      refine Or.inr ⟨unsupplied (fun other found => ?_) _, (Site.linkCache?_eq_some_iff.mp caching).2.symm, rfl⟩
      cases caching.symm.trans found
      exact incomplete
    | joins cache caching links complete =>
      have there := (Site.linkCache?_eq_some_iff.mp caching).2
      exact Or.inl ⟨⟨cache, caching, Or.inl ⟨unasked, complete⟩⟩,
        ⟨cache, _, there, rfl, fun other => Cache.holders_register⟩, Or.inl ⟨rfl, settled.fails e rfl⟩⟩
    | breaks cache caching links complete listed eager fault clock =>
      have there := (Site.linkCache?_eq_some_iff.mp caching).2
      exact Or.inl ⟨⟨cache, caching, Or.inl ⟨unasked, complete⟩⟩,
        ⟨cache, _, there, rfl, fun other => Cache.holders_register⟩, Or.inr ⟨rfl, fault, Or.inr clock, rfl⟩⟩
  | signs m s s' own place' listed' answer given' registration lacking waited went =>
    obtain ⟨rfl, rfl⟩ := given.unique given'
    have caching {cache : Cache} (there : s.cache = some cache) : s.linkCache? = some cache :=
      Site.linkCache?_eq_some_iff.mpr ⟨own.settings ▸ lacking.caching, there⟩
    obtain ⟨service, filling, outcome⟩ := registration
    have key := lacking.key
    cases went with
    | uncached _ plain =>
      refine Or.inr ⟨?_, rfl, rfl⟩
      rintro ⟨cache, found, -⟩
      cases plain.symm.trans (Site.linkCache?_eq_some_iff.mp found).2
    | refuses _ fault unsigned =>
      refine Or.inr ⟨?_, rfl, rfl⟩
      rintro ⟨cache, found, ⟨unasked, -⟩ | ⟨signed, answered⟩⟩
      · exact unasked answer rfl
      · cases answered
        exact unsigned signed rfl
    | joins cache there signed links =>
      refine Or.inl ⟨⟨cache, caching there, Or.inr ⟨signed, rfl⟩⟩, ⟨cache, _, there, rfl, fun other => ?_⟩,
        Or.inl ⟨?_, lacking.settled.fails e rfl⟩⟩
      · rw [← key]
        exact Cache.holders_register
      · rw [← key]
        rfl
    | breaks cache there signed links given fault clock =>
      refine Or.inl ⟨⟨cache, caching there, Or.inr ⟨signed, rfl⟩⟩, ⟨cache, _, there, rfl, fun other => ?_⟩,
        Or.inr ⟨rfl, fault, Or.inl clock, rfl⟩⟩
      rw [← key]
      exact Cache.holders_register

/-- No turn of a scan that fails changes the cache or the records of the resolver,
unless the last one is supplied with links. Then the batch has one more holder,
and either is on record although the metadata give no partition schema, or the
clock has failed before it came on record. -/
theorem failed_scan_changes_nothing_iff_unsupplied
    (scanned : Scanned r request (turn :: earlier) (.done (.error e))) :
    (∀ turn ∈ earlier, turn.Idle) ∧
    (turn.Idle ↔ ¬ ∃ place listed, Given r request (turn :: earlier) place listed ∧ turn.Supplied place listed) ∧
    ∀ place listed, Given r request (turn :: earlier) place listed → turn.Supplied place listed →
      turn.Counts place.tableKey ∧ FailsLate r request turn earlier place.tableKey e := by
  have course := scanned.course
  refine ⟨scanned.idle_before, ⟨?_, fun unsupplied => ?_⟩, fun place listed given supplied => ?_⟩
  · rintro idle ⟨place, listed, given, supplied⟩
    obtain ⟨-, counts, -⟩ | ⟨unsupplied, -⟩ := course.failed given
    · exact counts.not_idle idle
    · exact unsupplied supplied
  · by_cases known : ∃ place listed, Given r request (turn :: earlier) place listed
    · obtain ⟨place, listed, given⟩ := known
      obtain ⟨supplied, -⟩ | ⟨-, idle⟩ := course.failed given
      · exact absurd ⟨place, listed, given, supplied⟩ unsupplied
      · exact idle
    · cases course with
      | unlisted turn idle => exact idle
      | lists _ _ _ _ _ _ _ given | signs _ _ _ _ _ _ _ given => exact absurd ⟨_, _, given⟩ known
  · obtain ⟨-, late⟩ | ⟨unsupplied, -⟩ := course.failed given
    · exact late
    · exact absurd supplied unsupplied

/-- A listing that fails leaves nothing behind. -/
theorem failed_listing_changes_nothing :
    let lazy : ResolverSettings := ⟨⟨true, false⟩, true, true, .exact, .lazy, "share"⟩
    let site : Site := ⟨.new lazy "orders" "" none, some (.new ⟨none, 0, 10, 10, 60⟩)⟩
    let listing : ChangeListing := ⟨⟨"share", "schema", "orders"⟩, 0, none, Fingerprint.ofRange 0 none, none⟩
    let fault : Fault := .other "ConnectionError" "server is gone"
    let went := site.changesListed (.still 0 0) listing (.error fault)
    went.2 = .done (.error (.collaborator fault)) ∧ went.1.cache = site.cache ∧
      went.1.resolver.registered = site.resolver.registered := by
  intro lazy site listing fault went
  let request : ScanRequest := .scan .rows listing.table ⟨[], [], none, some (.range 0 none), true⟩
  have begun : Scanned site.resolver request [⟨.still 0 0, none, site, site⟩] (.changes listing) :=
    .begins site (.still 0 0) ⟨rfl, rfl, rfl⟩
  have scanned : Scanned site.resolver request
      [⟨.still 0 0, some (.changes (.error fault)), site, went.1⟩, ⟨.still 0 0, none, site, site⟩]
      (.done (.error (.collaborator fault))) :=
    .goesOn site went.1 (.still 0 0) (.changes (.error fault)) _ _ ⟨rfl, rfl, rfl⟩ begun rfl
  refine ⟨rfl, (failed_scan_changes_nothing_iff_unsupplied scanned).2.1.mpr ?_⟩
  rintro ⟨place, listed, given, -⟩
  exact Given.unanswered (by simp [Turn.listing?]) given

/-- A scan of a table that names a partition column it does not have fails, and
its batch stays registered. -/
theorem scan_without_partition_schema_stays_registered :
    let lazy : ResolverSettings := ⟨⟨true, false⟩, true, true, .exact, .lazy, "share"⟩
    let site : Site := ⟨.new lazy "orders" "" none, some (.new ⟨none, 0, 10, 10, 60⟩)⟩
    let table : TableReference := ⟨"share", "schema", "orders"⟩
    let metadata : TableMetadata := ⟨"\x7b\"type\":\"struct\",\"fields\":[]\x7d", ["region"]⟩
    ∃ turn earlier e, Scanned site.resolver (.scan .rows table ⟨[], [], none, none, false⟩) (turn :: earlier)
      (.done (.error e)) ∧ metadata.partitionSchema = .error e ∧
      turn.reply = some (.files (.ok [])) ∧ ¬ turn.Idle := by
  intro lazy site table metadata
  let m : Moment := .still 0 0
  have unknown : metadata.partitionSchema.isOk = false := by decide +kernel
  obtain ⟨e, failed⟩ : ∃ e, metadata.partitionSchema = .error e := by
    cases derived : metadata.partitionSchema with
    | ok columns =>
      rw [derived] at unknown
      cases unknown
    | error e => exact ⟨e, rfl⟩
  let planned : Site := { site with resolver := (site.resolver.plan none (.ok metadata)).1 }
  let text := Fingerprint.fieldsText (Fingerprint.snapshotFields [] none "latest")
  let listing : Listing := ⟨.rows, ⟨table, none, none, none⟩, Fingerprint.digest text, metadata⟩
  let went := planned.listed m listing (.ok [])
  have begun : Scanned site.resolver (.scan .rows table ⟨[], [], none, none, false⟩) [⟨m, none, site, site⟩]
      (.metadata ⟨.rows, table, ⟨[], [], none, none, false⟩, "latest", none⟩) := .begins site m ⟨rfl, rfl, rfl⟩
  have checked : Scanned site.resolver (.scan .rows table ⟨[], [], none, none, false⟩)
      [⟨m, some (.metadata (.ok metadata)), site, planned⟩, ⟨m, none, site, site⟩] (.files listing) :=
    .goesOn site planned m _ _ _ ⟨rfl, rfl, rfl⟩ begun rfl
  have ended : went.2 = .done (.error e) := by
    show ScanProgress.done (listing.outcome _ []) = _
    simp only [Listing.outcome, listing, failed]
  refine ⟨⟨m, some (.files (.ok [])), planned, went.1⟩,
    [⟨m, some (.metadata (.ok metadata)), site, planned⟩, ⟨m, none, site, site⟩], e, ?_, failed, rfl, ?_⟩
  · rw [← ended]
    exact .goesOn planned went.1 m _ _ _ ⟨rfl, rfl, rfl⟩ checked rfl
  · rintro ⟨-, records⟩
    cases records

end SharedTables
