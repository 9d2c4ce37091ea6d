import SharedTables.Proofs.Resolver.Scans

/-! Listings are kept whole. A scan that returns has exactly the files that have
been listed for it, and these are what its batch gets; once the listing is
there, only a missing partition schema or links that cannot be had keep the scan
from returning. -/
namespace SharedTables

variable {r : Resolver} {request : ScanRequest} {turn : Turn} {earlier : List Turn} {progress : ScanProgress}

/-- Whether a turn adds the files of a scan to its batch, and no others. -/
structure Turn.Adds (turn : Turn) (scan : ResolvedScan) : Prop where
  cached : ∀ cache, turn.found.linkCache? = some cache → ∃ cache', turn.left.cache = some cache' ∧
    ∀ key fileId, fileId ∈ cache'.files key ↔
      fileId ∈ cache.files key ∨ key = scan.tableKey ∧ ∃ file ∈ scan.files, file.fileId = fileId
  uncached : turn.found.linkCache? = none → turn.left.cache = turn.found.cache

/-- Registering the listed files adds those of their scan. -/
theorem Turn.Adds.of_register {place : ScanPlace} {listed : Listed} {scan : ResolvedScan} {cache : Cache}
    (holds : scan.Holds place listed) (there : turn.found.linkCache? = some cache) (key : tableKey = place.tableKey)
    (ids : fileIds = listed.actions.map (·.id))
    (registered : turn.left.cache = some (cache.register m tableKey table fileIds links issuer).1) :
    turn.Adds scan where
  cached other found := by
    cases there.symm.trans found
    refine ⟨_, registered, fun _ _ => ?_⟩
    rw [Cache.mem_files_register, key, ids, holds.key, ← holds.fileIds, List.mem_map]
  uncached none := by cases there.symm.trans none

theorem Course.returned (course : Course r request (turn :: earlier) (.done (.ok scan))) :
    ∃ place listed, Given r request (turn :: earlier) place listed ∧ scan.Holds place listed ∧ turn.Adds scan := by
  cases course with
  | unlisted _ _ unlisted => exact unlisted.elim
  | lists m reply s s' own place listed given outcome settled unasked went =>
    cases went with
    | uncached plain =>
      exact ⟨place, listed, given, settled.whole scan rfl,
        fun cache found => (nomatch plain.symm.trans found), fun _ => rfl⟩
    | joins cache caching =>
      have holds := settled.whole scan rfl
      exact ⟨place, listed, given, holds, .of_register holds caching rfl rfl rfl⟩
  | signs m s s' own place listed answer given registration lacking waited went =>
    obtain ⟨service, filling, outcome⟩ := registration
    cases went with
    | uncached _ plain =>
      exact ⟨place, listed, given, lacking.settled.whole scan rfl,
        fun cache found => (nomatch plain.symm.trans (Site.linkCache?_eq_some_iff.mp found).2), fun _ => rfl⟩
    | joins cache there =>
      have holds := lacking.settled.whole scan rfl
      have caching := Site.linkCache?_eq_some_iff.mpr ⟨own.settings ▸ lacking.caching, there⟩
      exact ⟨place, listed, given, holds, .of_register holds caching lacking.key lacking.fileIds rfl⟩

/-- Whether a turn fails because it gets no links: its clock fails, or no service
signs for it. -/
def Turn.Unsupplied (turn : Turn) (issuer : Option Issuer) (fault : Fault) : Prop :=
  turn.moment.Fails fault ∨ issuer = none ∨
    ∃ answer, turn.reply = some (.signature answer) ∧ ∀ signed, answer ≠ .ok (some signed)

/-- A scan that returns has the references of all listed files, in their order,
and its batch gets their ids and no others. Once the listing is there, a scan
returns unless its metadata give no partition schema or, if links are to be
signed at once, it waits for them or does not get them. -/
theorem listings_are_kept_whole (scanned : Scanned r request (turn :: earlier) progress) :
    (∀ scan, progress = .done (.ok scan) → ∃ place listed,
      Given r request (turn :: earlier) place listed ∧ scan.Holds place listed ∧ turn.Adds scan) ∧
    (∀ place listed, Given r request (turn :: earlier) place listed →
      (∃ scan, progress = .done (.ok scan)) ∨
      (∃ listing e, Awaited r request (turn :: earlier) listing ∧ listing.purpose = .rows ∧
        listing.metadata.partitionSchema = .error e ∧ progress = .done (.error e)) ∨
      r.settings.linkCache = true ∧ r.settings.population = .eager ∧
        ((∃ registration, progress = .sign registration) ∨
          ∃ fault, turn.Unsupplied r.issuer fault ∧ progress = .done (.error (.collaborator fault)))) ∧
    ∀ turn ∈ earlier, turn.Idle := by
  have ends {place : ScanPlace} {listed : Listed} {outcome : Except ScanError ResolvedScan}
      (settled : Settled r request (turn :: earlier) place listed outcome) (ended : progress = .done outcome) :
      (∃ scan, progress = .done (.ok scan)) ∨
      (∃ listing e, Awaited r request (turn :: earlier) listing ∧ listing.purpose = .rows ∧
        listing.metadata.partitionSchema = .error e ∧ progress = .done (.error e)) := by
    subst ended
    cases outcome with
    | ok scan => exact Or.inl ⟨scan, rfl⟩
    | error e =>
      obtain ⟨listing, waited, rows, failed⟩ := settled.fails e rfl
      exact Or.inr ⟨listing, e, waited, rows, failed, rfl⟩
  refine ⟨?_, fun place listed given => ?_, scanned.idle_before⟩
  · rintro scan rfl
    exact scanned.course.returned
  · cases scanned.course with
    | unlisted turn idle unlisted => exact absurd given (unlisted.ungiven place listed)
    | lists m reply s s' own place listed given outcome settled unasked went =>
      cases went with
      | uncached | joins => exact (ends settled rfl).imp_right Or.inl
      | refuses cache caching fault incomplete reason =>
        refine Or.inr (Or.inr ⟨?_, ?_, Or.inr ⟨fault, reason.imp Or.inl fun none => Or.inl ?_, rfl⟩⟩)
        · exact own.settings ▸ (Site.linkCache?_eq_some_iff.mp caching).1
        · exact own.settings ▸ Cache.eager_of_incomplete incomplete
        · exact own.issuer ▸ none
      | breaks cache caching links complete listed eager fault clock =>
        refine Or.inr (Or.inr ⟨?_, own.settings ▸ eager, Or.inr ⟨fault, Or.inl (Or.inr clock), rfl⟩⟩)
        exact own.settings ▸ (Site.linkCache?_eq_some_iff.mp caching).1
      | asks cache caching service fresh incomplete =>
        refine Or.inr (Or.inr ⟨?_, ?_, Or.inl ⟨_, rfl⟩⟩)
        · exact own.settings ▸ (Site.linkCache?_eq_some_iff.mp caching).1
        · exact own.settings ▸ Cache.eager_of_incomplete incomplete
    | signs m s s' own place listed answer given registration lacking waited went =>
      cases went with
      | uncached | joins => exact (ends lacking.settled rfl).imp_right Or.inl
      | refuses _ fault unsigned =>
        exact Or.inr (Or.inr ⟨lacking.caching, lacking.eager,
          Or.inr ⟨fault, Or.inr (Or.inr ⟨answer, rfl, unsigned⟩), rfl⟩⟩)
      | breaks _ _ _ _ _ fault clock =>
        exact Or.inr (Or.inr ⟨lacking.caching, lacking.eager, Or.inr ⟨fault, Or.inl (Or.inl clock), rfl⟩⟩)

/-- Of four changes three are wanted. The one of the last group goes, and an id
that is listed twice is once in the batch. -/
theorem limited_changes_are_kept_whole :
    let lazy : ResolverSettings := ⟨⟨true, false⟩, true, true, .exact, .lazy, "share"⟩
    let table : TableReference := ⟨"share", "schema", "orders"⟩
    let file (id : String) : FileAction := ⟨id, "", none, .empty, none, none, none, none⟩
    let changes : ChangeFiles := ⟨[file "a", file "b"], [file "a"], [file "c"]⟩
    let site : Site := ⟨.new lazy "orders" "" none, some (.new ⟨none, 0, 10, 10, 60⟩)⟩
    let listing : ChangeListing := ⟨table, 0, none, Fingerprint.ofRange 0 none, some 3⟩
    let went := site.changesListed (.still 0 0) listing (.ok changes)
    ∃ scan cache, went.2 = .done (.ok scan) ∧ went.1.cache = some cache ∧
      scan.files.map (·.fileId) = ["a", "b", "a"] ∧
      ∀ fileId, fileId ∈ cache.files scan.tableKey ↔ fileId = "a" ∨ fileId = "b" := by
  intro lazy table file changes site listing went
  let request : ScanRequest := .scan .rows table ⟨[], [], some 3, some (.range 0 none), true⟩
  let turns : List Turn := [⟨.still 0 0, some (.changes (.ok changes)), site, went.1⟩, ⟨.still 0 0, none, site, site⟩]
  have begun : Scanned site.resolver request [⟨.still 0 0, none, site, site⟩] (.changes listing) :=
    .begins site (.still 0 0) ⟨rfl, rfl, rfl⟩
  have scanned : Scanned site.resolver request turns went.2 :=
    .goesOn site went.1 (.still 0 0) (.changes (.ok changes)) _ _ ⟨rfl, rfl, rfl⟩ begun rfl
  have given : Given site.resolver request turns (site.resolver.place listing.fingerprint)
      (.changes (firstOf (some 3) changes.inOrder)) :=
    .changes turns .rows table _ 0 none changes listing.fingerprint rfl rfl rfl
  obtain ⟨place, listed, given', holds, adds⟩ := (listings_are_kept_whole scanned).1 _ rfl
  obtain ⟨rfl, rfl⟩ := given.unique given'
  obtain ⟨cache, left, ids⟩ := adds.cached _ rfl
  have files := holds.fileIds.trans (by decide : _ = ["a", "b", "a"])
  refine ⟨_, cache, rfl, left, files, fun fileId => ?_⟩
  rw [ids, ← List.mem_map, files]
  have unfilled (key : String) : (Cache.new ⟨none, 0, 10, 10, 60⟩).files key = [] := rfl
  rw [unfilled]
  simp only [List.not_mem_nil, false_or, true_and, List.mem_cons, or_false]
  tauto

end SharedTables
