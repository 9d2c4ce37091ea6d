import SharedTables.Proofs.Resolver.Planning
import SharedTables.Proofs.Resolver.Registering
import SharedTables.Proofs.Resolver.Session
import SharedTables.Proofs.Scan.Listed

/-! Scans from their first turn to their last. Other callers may act between two
turns, so a turn may find any cache, and its resolver with other memories; what
the scan has been asked for and what has been listed for it still decide where
it stands. -/
namespace SharedTables

open Session (Reply)

/-- Whether two states of a resolver differ in what it remembers only. -/
structure Resolver.Same (r r' : Resolver) : Prop where
  settings : r'.settings = r.settings
  location : r'.tableLocation = r.tableLocation
  issuer : r'.issuer = r.issuer

/-- What a resolver is asked for. -/
inductive ScanRequest
  | scan (purpose : ScanPurpose) (table : TableReference) (params : ScanParameters)
  /-- Files that have been listed already. -/
  | batch (table : TableReference) (actions : List FileAction) (start : Int) (last : Option Int)

def ScanRequest.table : ScanRequest → TableReference
  | .scan _ table _ => table
  | .batch table _ _ _ => table

/-- The first turn of a scan. -/
def Site.beginScan (s : Site) (m : Moment) : ScanRequest → Site × ScanProgress
  | .scan purpose table params => (s, s.resolver.begin purpose table params)
  | .batch table actions start last => s.resolveBatch m table actions start last

/-- A turn of a scan: when it ran, after which reply, and what it found and left. -/
structure Turn where
  moment : Moment
  reply : Option Reply
  found : Site
  left : Site

namespace Turn

/-- Whether a turn has changed neither the cache nor the records of its resolver. -/
def Idle (turn : Turn) : Prop :=
  turn.left.cache = turn.found.cache ∧ turn.left.resolver.registered = turn.found.resolver.registered

/-- The listing that a turn was given. -/
def listing? (turn : Turn) : Option Reply :=
  match turn.reply with
  | some (.files answer) => some (.files answer)
  | some (.changes answer) => some (.changes answer)
  | _ => none

end Turn

/-- Whether a scan can have come to a stage by some turns, the latest first. -/
inductive Scanned (r : Resolver) (request : ScanRequest) : List Turn → ScanProgress → Prop
  | begins (s : Site) (m : Moment) (own : r.Same s.resolver) :
      Scanned r request [⟨m, none, s, (s.beginScan m request).1⟩] (s.beginScan m request).2
  | goesOn (s s' : Site) (m : Moment) (reply : Reply) (before after : ScanProgress) (own : r.Same s.resolver)
      (earlier : Scanned r request turns before) (resumed : s.resume m (.scan before) reply = some (s', .scan after)) :
      Scanned r request (⟨m, some reply, s, s'⟩ :: turns) after

/-- Whether files have been listed for a scan that are to be found at a place,
cut to the limit that applies. -/
inductive Given (r : Resolver) : ScanRequest → List Turn → ScanPlace → Listed → Prop
  | version (turns : List Turn) (purpose : ScanPurpose) (table : TableReference) (params : ScanParameters)
      (actions : List FileAction) (fingerprint : String)
      (answered : turns.filterMap Turn.listing? = [.files (.ok actions)])
      (fingerprinted : r.listingFingerprint purpose params = .ok fingerprint) :
      Given r (.scan purpose table params) turns (r.place fingerprint)
        (.files (firstOf (r.limitFor params purpose) actions))
  | changes (turns : List Turn) (purpose : ScanPurpose) (table : TableReference) (params : ScanParameters)
      (start : Int) (last : Option Int) (changes : ChangeFiles) (fingerprint : String)
      (answered : turns.filterMap Turn.listing? = [.changes (.ok changes)])
      (range : params.version = some (.range start last))
      (fingerprinted : Fingerprint.range start last = .ok fingerprint) :
      Given r (.scan purpose table params) turns (r.place fingerprint)
        (.changes (firstOf (r.limitFor params purpose) changes.inOrder))
  | batch (turns : List Turn) (table : TableReference) (actions : List FileAction) (start : Int) (last : Option Int)
      (fingerprint : String) (fingerprinted : Fingerprint.range start last = .ok fingerprint) :
      Given r (.batch table actions start last) turns (r.place fingerprint) (.files actions)

/-- Whether a scan has waited for a listing. -/
def Awaited (r : Resolver) (request : ScanRequest) (turns : List Turn) (listing : Listing) : Prop :=
  ∃ later earlier, turns = later ++ earlier ∧ Scanned r request earlier (.files listing)

/-- Whether the result of a scan is made of what has been listed, or failing that,
the metadata that it was checked against give no partition schema. -/
structure Settled (r : Resolver) (request : ScanRequest) (turns : List Turn) (place : ScanPlace) (listed : Listed)
    (outcome : Except ScanError ResolvedScan) : Prop where
  whole : ∀ scan, outcome = .ok scan → scan.Holds place listed
  fails : ∀ e, outcome = .error e → ∃ listing, Awaited r request turns listing ∧
    listing.purpose = .rows ∧ listing.metadata.partitionSchema = .error e

/-- Whether a scan waits for the links of what has been listed for it. -/
structure LacksLinks (r : Resolver) (request : ScanRequest) (turns : List Turn) (place : ScanPlace) (listed : Listed)
    (registration : Registration) : Prop where
  caching : r.settings.linkCache = true
  eager : r.settings.population = .eager
  key : registration.filling.tableKey = place.tableKey
  table : registration.filling.table = request.table
  fileIds : registration.filling.fileIds = listed.actions.map (·.id)
  links : ∀ fileId link, registration.filling.listed.get? fileId = some link →
    ∃ action ∈ listed.actions, action.id = fileId ∧ action.link? = some link
  settled : Settled r request turns place listed registration.outcome

/-- What the stage of a scan says as long as nothing has been listed for it. -/
def Unlisted (r : Resolver) (request : ScanRequest) (turns : List Turn) : ScanProgress → Prop
  | .metadata check => request = .scan check.purpose check.table check.params ∧ turns.filterMap Turn.listing? = []
  | .files listing => (∃ purpose table params, request = .scan purpose table params ∧
      r.AsksFiles purpose table params listing) ∧ turns.filterMap Turn.listing? = []
  | .changes listing => (∃ purpose table params, request = .scan purpose table params ∧
      r.AsksChanges purpose table params listing) ∧ turns.filterMap Turn.listing? = []
  | .done (.error _) => ∀ place listed, ¬ Given r request turns place listed
  | .done (.ok _) | .sign _ => False

/-- The latest turn of a scan: nothing has been listed yet, or it puts what has
been listed into the cache, at once or after a service has signed. -/
inductive Course (r : Resolver) (request : ScanRequest) : List Turn → ScanProgress → Prop
  | unlisted (turn : Turn) (idle : turn.Idle) (unlisted : Unlisted r request (turn :: earlier) progress) :
      Course r request (turn :: earlier) progress
  | lists (m : Moment) (reply : Option Reply) (s s' : Site) (own : r.Same s.resolver) (place : ScanPlace)
      (listed : Listed) (given : Given r request (⟨m, reply, s, s'⟩ :: earlier) place listed)
      (outcome : Except ScanError ResolvedScan)
      (settled : Settled r request (⟨m, reply, s, s'⟩ :: earlier) place listed outcome)
      (unasked : ∀ answer, reply ≠ some (.signature answer))
      (went : s.Registers m request.table place.tableKey listed.actions outcome (s', progress)) :
      Course r request (⟨m, reply, s, s'⟩ :: earlier) progress
  | signs (m : Moment) (s s' : Site) (own : r.Same s.resolver) (place : ScanPlace) (listed : Listed)
      (answer : Signature) (given : Given r request (⟨m, some (.signature answer), s, s'⟩ :: earlier) place listed)
      (registration : Registration)
      (lacking : LacksLinks r request (⟨m, some (.signature answer), s, s'⟩ :: earlier) place listed registration)
      (waited : Scanned r request earlier (.sign registration))
      (went : s.Signs m registration answer (s', progress)) :
      Course r request (⟨m, some (.signature answer), s, s'⟩ :: earlier) progress

namespace Resolver

variable {r r' : Resolver}

theorem Same.of_eq (same : r.Same r') :
    ∃ planned tables registered, r' = { r with planned, tables, registered } := by
  obtain ⟨settings, location, issuer⟩ := same
  cases r'
  simp_all

theorem Same.place (same : r.Same r') : r'.place = r.place := by
  obtain ⟨planned, tables, registered, rfl⟩ := same.of_eq
  rfl

end Resolver

namespace Given

variable {r : Resolver} {request : ScanRequest} {turns : List Turn} {place place' : ScanPlace} {listed listed' : Listed}

theorem unanswered {purpose : ScanPurpose} {table : TableReference} {params : ScanParameters}
    (nothing : ∀ reply ∈ turns.filterMap Turn.listing?,
      (∀ actions, reply ≠ .files (.ok actions)) ∧ ∀ changes, reply ≠ .changes (.ok changes)) :
    ¬ Given r (.scan purpose table params) turns place listed := by
  intro given
  cases given with
  | version _ _ _ _ actions _ answered => exact (nothing _ (answered ▸ List.mem_singleton_self _)).1 actions rfl
  | changes _ _ _ _ _ _ changes _ answered => exact (nothing _ (answered ▸ List.mem_singleton_self _)).2 changes rfl

/-- What has been listed stays so as long as nothing else is listed. -/
theorem later (given : Given r request turns place listed) (quiet : turn.listing? = none) :
    Given r request (turn :: turns) place listed := by
  cases given with
  | version _ purpose table params actions fingerprint answered fingerprinted =>
    exact .version _ _ _ _ _ _ (by rwa [List.filterMap_cons_none quiet]) fingerprinted
  | changes _ purpose table params start last changes fingerprint answered range fingerprinted =>
    exact .changes _ _ _ _ _ _ _ _ (by rwa [List.filterMap_cons_none quiet]) range fingerprinted
  | batch _ table actions start last fingerprint fingerprinted => exact .batch _ _ _ _ _ _ fingerprinted

/-- What has been listed for a scan, and the place of its files, are certain. -/
theorem unique (given : Given r request turns place listed) (given' : Given r request turns place' listed') :
    place = place' ∧ listed = listed' := by
  cases given with
  | version _ _ _ _ _ _ answered fingerprinted =>
    cases given' with
    | version _ _ _ _ _ _ answered' fingerprinted' =>
      cases answered.symm.trans answered'
      cases fingerprinted.symm.trans fingerprinted'
      exact ⟨rfl, rfl⟩
    | changes _ _ _ _ _ _ _ _ answered' => cases answered.symm.trans answered'
  | changes _ _ _ _ _ _ _ _ answered range fingerprinted =>
    cases given' with
    | version _ _ _ _ _ _ answered' => cases answered.symm.trans answered'
    | changes _ _ _ _ _ _ _ _ answered' range' fingerprinted' =>
      cases answered.symm.trans answered'
      cases range.symm.trans range'
      cases fingerprinted.symm.trans fingerprinted'
      exact ⟨rfl, rfl⟩
  | batch _ _ _ _ _ _ fingerprinted =>
    cases given' with
    | batch _ _ _ _ _ _ fingerprinted' =>
      cases fingerprinted.symm.trans fingerprinted'
      exact ⟨rfl, rfl⟩

end Given

theorem Unlisted.ungiven {r : Resolver} {request : ScanRequest} {turns : List Turn}
    (unlisted : Unlisted r request turns progress) (place : ScanPlace) (listed : Listed) :
    ¬ Given r request turns place listed := by
  cases progress with
  | metadata check =>
    obtain ⟨rfl, nothing⟩ := unlisted
    exact Given.unanswered (by simp [nothing])
  | files listing | changes listing =>
    obtain ⟨⟨purpose, table, params, rfl, -⟩, nothing⟩ := unlisted
    exact Given.unanswered (by simp [nothing])
  | sign => exact unlisted.elim
  | done result =>
    cases result with
    | ok scan => exact unlisted.elim
    | error e => exact unlisted place listed

section

variable {r : Resolver} {request : ScanRequest} {turns earlier : List Turn} {place : ScanPlace} {listed : Listed}

theorem Settled.of_holds {scan : ResolvedScan} (holds : scan.Holds place listed) :
    Settled r request turns place listed (.ok scan) where
  whole _ same := by
    cases same
    exact holds
  fails _ failed := by cases failed

theorem Settled.later (settled : Settled r request turns place listed outcome) (turn : Turn) :
    Settled r request (turn :: turns) place listed outcome where
  whole := settled.whole
  fails e failed := by
    obtain ⟨listing, ⟨later, earlier, rfl, waited⟩, rows⟩ := settled.fails e failed
    exact ⟨listing, ⟨turn :: later, earlier, rfl, waited⟩, rows⟩

theorem LacksLinks.later {registration : Registration} (lacking : LacksLinks r request turns place listed registration)
    (turn : Turn) : LacksLinks r request (turn :: turns) place listed registration :=
  { lacking with settled := lacking.settled.later turn }

/-- A scan of listed files is settled by them, unless it needs a partition schema
that its metadata do not give. -/
theorem Listing.settled {listing : Listing} (waited : Scanned r request turns (.files listing)) (place : ScanPlace)
    (turn : Turn) (actions : List FileAction) : Settled r request (turn :: turns) place (.files (listing.kept actions))
      (listing.outcome place actions) := by
  have holds := ResolvedScan.ofListing_holds place (listing.kept actions)
  unfold Listing.outcome
  cases purpose : listing.purpose with
  | inputs => exact .of_holds holds
  | rows =>
    dsimp only
    cases derived : listing.metadata.partitionSchema with
    | ok columns => exact .of_holds ⟨holds.key, holds.whole.files, holds.whole.directories, holds.whole.ungrouped⟩
    | error e =>
      refine ⟨fun scan whole => (nomatch whole), fun e' failed => ?_⟩
      cases failed
      exact ⟨listing, ⟨[turn], turns, rfl, waited⟩, purpose, derived⟩

/-- A scan that waits for a server waits for its first listing. -/
theorem Course.waiting (course : Course r request turns progress) (undone : ∀ result, progress ≠ .done result)
    (unsigned : ∀ registration, progress ≠ .sign registration) : Unlisted r request turns progress := by
  cases course with
  | unlisted turn idle unlisted => exact unlisted
  | lists _ _ _ _ _ _ _ _ _ _ _ went =>
    cases went with
    | uncached | refuses | joins | breaks => exact absurd rfl (undone _)
    | asks => exact absurd rfl (unsigned _)
  | signs _ _ _ _ _ _ _ _ _ _ _ went => cases went <;> exact absurd rfl (undone _)

/-- A scan that waits for signatures lacks the links of what has been listed. -/
theorem Course.lacking {registration : Registration} (course : Course r request turns (.sign registration)) :
    ∃ place listed, Given r request turns place listed ∧ LacksLinks r request turns place listed registration := by
  cases course with
  | unlisted turn idle unlisted => exact unlisted.elim
  | lists m reply s s' own place listed given outcome settled unasked went =>
    cases went with
    | asks cache caching service fresh incomplete =>
      refine ⟨place, listed, given, ?_, ?_, rfl, rfl, rfl,
        fun _ _ found => Cache.Filling.ofListing_source found, settled⟩
      · exact own.settings ▸ (Site.linkCache?_eq_some_iff.mp caching).1
      · exact own.settings ▸ Cache.eager_of_incomplete incomplete
  | signs _ _ _ _ _ _ _ _ _ _ _ went => cases went

theorem begins_course (s : Site) (m : Moment) (own : r.Same s.resolver) :
    Course r request [⟨m, none, s, (s.beginScan m request).1⟩] (s.beginScan m request).2 := by
  cases request with
  | scan purpose table params =>
    obtain ⟨planned, tables, registered, same⟩ := own.of_eq
    have begins := s.resolver.begin_begins purpose table params
    simp only [Site.beginScan]
    generalize s.resolver.begin purpose table params = progress at begins
    refine .unlisted _ ⟨rfl, rfl⟩ ?_
    cases begins with
    | fails e => exact fun place listed => Given.unanswered (by simp [Turn.listing?])
    | checks key planned => exact ⟨rfl, rfl⟩
    | changes listing asks =>
      rw [same] at asks
      exact ⟨⟨purpose, table, params, rfl, asks.named, asks.range, asks.fingerprint, asks.limit⟩, rfl⟩
  | batch table actions start last =>
    have same : s.resolver.place = r.place := own.place
    simp only [Site.beginScan, Site.resolveBatch, same]
    cases fingerprinted : Fingerprint.range start last with
    | error e =>
      refine .unlisted _ ⟨rfl, rfl⟩ fun place listed given => ?_
      cases given with
      | batch _ _ _ _ _ _ succeeded => cases fingerprinted.symm.trans succeeded
    | ok fingerprint =>
      exact .lists m none s _ own _ (.files actions) (.batch _ _ _ _ _ _ fingerprinted) _
        (.of_holds (ResolvedScan.ofListing_holds _ actions)) (by simp) (s.register_registers ..)

theorem metadata_course {check : PlanCheck} {answer : Except Fault TableMetadata} (s : Site) (m : Moment)
    (own : r.Same s.resolver) (unlisted : Unlisted r request turns (.metadata check)) :
    Course r request
      (⟨m, some (.metadata answer), s, { s with resolver := (s.resolver.checked check answer).1 }⟩ :: turns)
      (s.resolver.checked check answer).2 := by
  obtain ⟨rfl, nothing⟩ := unlisted
  have checks := s.resolver.checked_checks check answer
  generalize s.resolver.checked check answer = went at checks
  cases checks with
  | fails r' planned e =>
    exact .unlisted _ ⟨rfl, planned.alike.registered⟩ fun place listed =>
      Given.unanswered (by rw [List.filterMap_cons_none rfl, nothing]; simp)
  | files r' planned listing asks =>
    obtain ⟨plans, tables, registered, same⟩ := own.of_eq
    rw [same] at asks
    exact .unlisted _ ⟨rfl, planned.alike.registered⟩
      ⟨⟨_, _, _, rfl, asks.sought, asks.request, asks.fingerprint⟩, by rwa [List.filterMap_cons_none rfl]⟩

theorem files_course {listing : Listing} {answer : Except Fault (List FileAction)} (s : Site) (m : Moment)
    (own : r.Same s.resolver) (waited : Scanned r request turns (.files listing))
    (unlisted : Unlisted r request turns (.files listing)) :
    Course r request (⟨m, some (.files answer), s, (s.listed m listing answer).1⟩ :: turns)
      (s.listed m listing answer).2 := by
  obtain ⟨⟨purpose, table, params, rfl, asks⟩, nothing⟩ := unlisted
  cases answer with
  | error fault =>
    exact .unlisted _ ⟨rfl, rfl⟩ fun place listed => Given.unanswered (by simp [Turn.listing?, nothing])
  | ok actions =>
    have kept : listing.kept actions = firstOf (r.limitFor params purpose) actions := by
      rw [Listing.kept, filesWithin_eq, asks.request, Resolver.listingRequest_limit]
    have named : listing.request.table = table := by
      rw [asks.request]
      cases purpose <;> rfl
    have settled := Listing.settled waited (r.place listing.fingerprint)
      ⟨m, some (.files (.ok actions)), s, (s.listed m listing (.ok actions)).1⟩ actions
    simp only [Site.listed, own.place] at settled ⊢
    rw [kept] at settled ⊢
    rw [named] at settled ⊢
    exact .lists m _ s _ own _ (.files _)
      (.version _ _ _ _ _ _ (by simp [Turn.listing?, nothing]) asks.fingerprint) _ settled (by simp)
      (s.register_registers ..)

theorem changes_course {listing : ChangeListing} {answer : Except Fault ChangeFiles} (s : Site) (m : Moment)
    (own : r.Same s.resolver) (unlisted : Unlisted r request turns (.changes listing)) :
    Course r request (⟨m, some (.changes answer), s, (s.changesListed m listing answer).1⟩ :: turns)
      (s.changesListed m listing answer).2 := by
  obtain ⟨⟨purpose, table, params, rfl, asks⟩, nothing⟩ := unlisted
  cases answer with
  | error fault =>
    exact .unlisted _ ⟨rfl, rfl⟩ fun place listed => Given.unanswered (by simp [Turn.listing?, nothing])
  | ok changes =>
    have entries := changes.entriesOf_within (r.limitFor params purpose)
    have holds := ResolvedScan.ofChanges_holds (r.place listing.fingerprint)
      (changes.kinds_within (r.limitFor params purpose))
    have kept := ChangeFiles.actions_entriesOf (changes.within (r.limitFor params purpose))
    rw [entries] at holds kept
    simp only [Site.changesListed, own.place, asks.limit, asks.named, ← kept]
    exact .lists m _ s _ own _ _
      (.changes _ _ _ _ _ _ _ _ (by simp [Turn.listing?, nothing]) asks.range asks.fingerprint) _
      (.of_holds holds) (by simp) (s.register_registers ..)

/-- Every scan takes its course. -/
theorem Scanned.course (scanned : Scanned r request turns progress) : Course r request turns progress := by
  induction scanned with
  | begins s m own => exact begins_course s m own
  | goesOn s s' m reply before after own earlier resumed ih =>
    cases before with
    | done result => cases reply <;> cases resumed
    | metadata check =>
      have unlisted := ih.waiting (by simp) (by simp)
      cases reply with
      | metadata answer =>
        cases resumed
        exact metadata_course s m own unlisted
      | files | changes | signature | wakeUp => cases resumed
    | files listing =>
      have unlisted := ih.waiting (by simp) (by simp)
      cases reply with
      | files answer =>
        cases resumed
        exact files_course s m own earlier unlisted
      | metadata | changes | signature | wakeUp => cases resumed
    | changes listing =>
      have unlisted := ih.waiting (by simp) (by simp)
      cases reply with
      | changes answer =>
        cases resumed
        exact changes_course s m own unlisted
      | metadata | files | signature | wakeUp => cases resumed
    | sign registration =>
      obtain ⟨place, listed, given, lacking⟩ := ih.lacking
      cases reply with
      | signature answer =>
        cases resumed
        exact .signs m s _ own place listed answer (given.later rfl) registration (lacking.later _) earlier
          (s.signed_signs m registration answer)
      | metadata | files | changes | wakeUp => cases resumed

/-- A turn after which the scan goes on has left the cache and all records alone. -/
theorem Course.idle (course : Course r request (turn :: earlier) progress)
    (going : ∀ result, progress ≠ .done result) : turn.Idle := by
  cases course with
  | unlisted turn idle => exact idle
  | lists m reply s s' own place listed given outcome settled unasked went =>
    cases went with
    | uncached | refuses | joins | breaks => exact absurd rfl (going _)
    | asks cache caching => exact ⟨(Site.linkCache?_eq_some_iff.mp caching).2.symm, rfl⟩
  | signs _ _ _ _ _ _ _ _ _ _ _ went => cases went <;> exact absurd rfl (going _)

/-- A scan that has ended does not go on. -/
theorem unended {s : Site} {went : Site × Session.Stage} (resumed : s.resume m (.scan progress) reply = some went)
    (result : Except ScanError ResolvedScan) : progress ≠ .done result := by
  rintro rfl
  cases reply <;> cases resumed

theorem Scanned.idle (scanned : Scanned r request turns progress) (going : ∀ result, progress ≠ .done result) :
    ∀ turn ∈ turns, turn.Idle := by
  induction scanned with
  | begins s m own =>
    intro turn member
    cases List.mem_singleton.mp member
    exact (begins_course s m own).idle going
  | goesOn s s' m reply before after own earlier resumed ih =>
    intro turn member
    obtain rfl | member := List.mem_cons.mp member
    · exact (Scanned.goesOn s s' m reply before after own earlier resumed).course.idle going
    · exact ih (unended resumed) turn member

/-- Only the last turn of a scan can change the cache. -/
theorem Scanned.idle_before (scanned : Scanned r request (turn :: earlier) progress) : ∀ turn ∈ earlier, turn.Idle := by
  cases scanned with
  | begins => simp
  | goesOn s s' m reply before after own scanned resumed => exact scanned.idle (unended resumed)

end

end SharedTables
