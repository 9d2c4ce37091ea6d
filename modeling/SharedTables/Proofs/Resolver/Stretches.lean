import SharedTables.Proofs.Resolver.Calls
import SharedTables.Proofs.Resolver.Planning
import SharedTables.Proofs.Resolver.Registering
import SharedTables.Proofs.Scan.Fingerprint

/-! What a stretch of a call can do to a resolver and to the cache. A scan that
is registered in the cache is recorded in its resolver by the same stretch,
unless the clock fails in between; nothing else is registered or recorded. -/
namespace SharedTables

open Session (Stage Reply)

/-- The key of a scan with a fingerprint is not empty. -/
theorem ScanPlace.tableKey_ne_empty {place : ScanPlace} (marked : place.fingerprint ≠ "") : place.tableKey ≠ "" := by
  intro empty
  have chars := congrArg String.toList empty
  simp [ScanPlace.tableKey, locationWithFingerprint, marked] at chars

namespace Resolver

/-- Whether the files of a scan, if there is one, are files of a batch. -/
def Fits (r : Resolver) (tableKey : String) (fileIds : List String) (outcome : Except ScanError ResolvedScan) :
    Prop :=
  ∀ scan, outcome = .ok scan → ∀ file ∈ scan.files, file.tableKey = tableKey ∧ tableKey ≠ "" ∧
    file.fileId ∈ fileIds ∧ file.scheme = r.settings.scheme

/-- Whether a call will hand out a scan that fits the batch it registers. -/
def Expects (r : Resolver) : Stage → Prop
  | .scan (.files listing) => listing.fingerprint ≠ ""
  | .scan (.changes listing) => listing.fingerprint ≠ ""
  | .scan (.sign registration) =>
    r.Fits registration.filling.tableKey registration.filling.fileIds registration.outcome
  | _ => True

variable {r r' : Resolver} {tableKey : String} {fileIds : List String}

theorem Fits.of_settings (same : r'.settings = r.settings) (fits : r.Fits tableKey fileIds outcome) :
    r'.Fits tableKey fileIds outcome := by
  intro scan resolved file member
  rw [same]
  exact fits scan resolved file member

theorem Expects.of_settings (same : r'.settings = r.settings) (expects : r.Expects stage) : r'.Expects stage := by
  cases stage with
  | read | link => exact trivial
  | scan progress =>
    cases progress with
    | done | metadata => exact trivial
    | files | changes => exact expects
    | sign registration => exact Fits.of_settings same expects

theorem checked_expects (r : Resolver) (check : PlanCheck) (answer : Except Fault TableMetadata) :
    r.Alike (r.checked check answer).1 ∧
      (∀ scan, (r.checked check answer).2 ≠ .done (.ok scan)) ∧ r.Expects (.scan (r.checked check answer).2) := by
  have checks := checked_checks r check answer
  generalize r.checked check answer = went at checks
  cases checks with
  | fails r' planned e => exact ⟨planned.alike, by simp, trivial⟩
  | files r' planned listing asks =>
    refine ⟨planned.alike, by simp, ?_⟩
    have fingerprinted := asks.fingerprint
    unfold listingFingerprint at fingerprinted
    split at fingerprinted <;> exact Fingerprint.snapshot_ne_empty fingerprinted

theorem begin_expects (r : Resolver) (purpose : ScanPurpose) (table : TableReference) (params : ScanParameters) :
    (∀ scan, r.begin purpose table params ≠ .done (.ok scan)) ∧
      r.Expects (.scan (r.begin purpose table params)) := by
  have begins := begin_begins r purpose table params
  generalize r.begin purpose table params = progress at begins
  cases begins with
  | fails | checks => exact ⟨by simp, trivial⟩
  | changes listing asks => exact ⟨by simp, Fingerprint.range_ne_empty asks.fingerprint⟩

end Resolver

/-! Scans that are handed out fit their batches. -/

namespace Resolver

variable {r : Resolver} {fingerprint : String}

theorem ofListing_fits (marked : fingerprint ≠ "") (actions : List FileAction) :
    r.Fits (r.place fingerprint).tableKey (actions.map (·.id))
      (.ok (.ofListing (r.place fingerprint) actions)) := by
  rintro scan ⟨⟩ file member
  obtain ⟨action, listed, rfl⟩ := List.mem_map.mp member
  exact ⟨rfl, ScanPlace.tableKey_ne_empty marked, List.mem_map_of_mem listed, rfl⟩

theorem outcome_fits (listing : Listing) (marked : listing.fingerprint ≠ "") (actions : List FileAction) :
    r.Fits (r.place listing.fingerprint).tableKey ((listing.kept actions).map (·.id))
      (listing.outcome (r.place listing.fingerprint) actions) := by
  have fits := ofListing_fits (r := r) marked (listing.kept actions)
  unfold Listing.outcome
  cases listing.purpose with
  | inputs => exact fits
  | rows =>
    intro scan resolved file member
    dsimp only at resolved
    split at resolved
    · cases resolved
    · cases resolved
      exact fits _ rfl file member

theorem ofChanges_fits (marked : fingerprint ≠ "") (groups : List (ChangeKind × List FileAction)) :
    r.Fits (r.place fingerprint).tableKey ((groups.flatMap (·.2)).map (·.id))
      (.ok (.ofChanges (r.place fingerprint) groups)) := by
  rintro scan ⟨⟩ file member
  obtain ⟨group, grouped, member⟩ := List.mem_flatMap.mp member
  obtain ⟨action, listed, rfl⟩ := List.mem_map.mp member
  have kept : action ∈ groups.flatMap (·.2) := List.mem_flatMap.mpr ⟨group, grouped, listed⟩
  exact ⟨rfl, ScanPlace.tableKey_ne_empty marked, List.mem_map_of_mem kept, rfl⟩

end Resolver

/-- What a stretch of a call can do, given how far the call had come. -/
inductive Stretch (c : Cache) (m : Moment) (r : Resolver) (before : Option Stage) :
    Option Reply → Site × Stage → Prop
  /-- A scan goes on or ends without a registration. -/
  | scans (r' : Resolver) (progress : ScanProgress) (alike : r.Alike r')
      (unread : ∀ progress, before ≠ some (.read progress))
      (uncached : ∀ scan, progress = .done (.ok scan) → r.settings.linkCache = false)
      (expects : (∀ stage, before = some stage → r.Expects stage) → r.Expects (.scan progress)) :
      Stretch c m r before reply (⟨r', some c⟩, .scan progress)
  /-- A scan is registered, at once or after its fresh links have been looked up, and recorded. -/
  | registers (r' : Resolver) (tableKey : String) (table : TableReference) (fileIds : List String) (links : Links)
      (refresher : Option Issuer) (outcome : Except ScanError ResolvedScan) (alike : r.Alike r')
      (unread : ∀ progress, before ≠ some (.read progress)) (m' : Moment) (reading : m' = m ∨ m' = m.rest)
      (fits : (∀ stage, before = some stage → r.Expects stage) → r.Fits tableKey fileIds outcome) :
      Stretch c m r before reply
        (⟨r'.rememberBatch tableKey, some (c.register m' tableKey table fileIds links refresher).1⟩,
          .scan (.done outcome))
  /-- The clock fails after a scan has been registered. -/
  | breaks (r' : Resolver) (tableKey : String) (table : TableReference) (fileIds : List String) (links : Links)
      (refresher : Option Issuer) (fault : Fault) (alike : r.Alike r')
      (unread : ∀ progress, before ≠ some (.read progress)) (m' : Moment) (reading : m' = m ∨ m' = m.rest)
      (clock : m.Fails fault) :
      Stretch c m r before reply
        (⟨r', some (c.register m' tableKey table fileIds links refresher).1⟩,
          .scan (.done (.error (.collaborator fault))))
  | looks (l : Cache.Lookup)
      (awaited : before = none ∨ ∃ limit, before = some (.read (.cached (.wait limit l)))) :
      Stretch c m r before reply (⟨r, some (c.look m l).1⟩, .read (.cached (c.look m l).2))
  | refreshed (issuer : Issuer) (refresh : Cache.Refresh) (answer : Signature)
      (signed : before = some (.read (.cached (.sign issuer refresh)))) :
      Stretch c m r before (some (.signature answer))
        (⟨r, some (c.finishRefresh m refresh answer).1⟩, .read (.cached (.done (c.finishRefresh m refresh answer).2)))
  /-- A read does without the cache. -/
  | bypasses (stage : Stage) (uncached : ∀ progress, before ≠ some (.read (.cached progress)))
      (plain : (∃ e, stage = .read (.failed e)) ∨ (∃ issuer read, stage = .read (.sign issuer read)) ∨
        ∃ result, stage = .link result) :
      Stretch c m r before reply (⟨r, some c⟩, stage)

namespace Stretch

variable {c : Cache} {m : Moment} {r r' : Resolver} {before : Option Stage} {reply : Option Reply}

theorem of_register (r : Resolver) (c : Cache) (m : Moment) (table : TableReference) (tableKey : String)
    (actions : List FileAction) (unread : ∀ progress, before ≠ some (.read progress))
    (fits : (∀ stage, before = some stage → r.Expects stage) → r.Fits tableKey (actions.map (·.id)) outcome) :
    Stretch c m r before reply ((Site.register ⟨r, some c⟩ m table tableKey actions outcome).map id .scan) := by
  have alike : r.Alike (r.rememberTable tableKey table) := ⟨rfl, rfl⟩
  have registers := Site.register_registers ⟨r, some c⟩ m table tableKey actions outcome
  generalize Site.register ⟨r, some c⟩ m table tableKey actions outcome = went at registers
  cases registers with
  | uncached plain =>
    have uncached : r.settings.linkCache = false := by simpa [Site.linkCache?] using plain
    exact .scans _ _ alike unread (fun _ _ => uncached) fun _ => trivial
  | refuses cache caching =>
    obtain ⟨-, rfl⟩ : _ ∧ c = cache := by simpa using Site.linkCache?_eq_some_iff.mp caching
    exact .scans _ _ alike unread (fun _ ended => by cases ended) fun _ => trivial
  | asks cache caching =>
    obtain ⟨-, rfl⟩ : _ ∧ c = cache := by simpa using Site.linkCache?_eq_some_iff.mp caching
    exact .scans _ _ alike unread (fun _ ended => by cases ended) fits
  | joins cache caching =>
    obtain ⟨-, rfl⟩ : _ ∧ c = cache := by simpa using Site.linkCache?_eq_some_iff.mp caching
    exact .registers _ _ _ _ _ _ _ alike unread _ (Or.inr rfl) fits
  | breaks cache caching links complete listed eager fault clock =>
    obtain ⟨-, rfl⟩ : _ ∧ c = cache := by simpa using Site.linkCache?_eq_some_iff.mp caching
    exact .breaks _ _ _ _ _ _ _ alike unread _ (Or.inr rfl) (Or.inr clock)

theorem of_signed {registration : Registration} {answer : Signature} :
    Stretch c m r (some (.scan (.sign registration))) reply
      ((Site.signed ⟨r, some c⟩ m registration answer).map id .scan) := by
  have fits (expects : ∀ stage, some (.scan (.sign registration)) = some stage → r.Expects stage) :
      r.Fits registration.filling.tableKey registration.filling.fileIds registration.outcome :=
    expects (.scan (.sign registration)) rfl
  have signs := Site.signed_signs ⟨r, some c⟩ m registration answer
  generalize Site.signed ⟨r, some c⟩ m registration answer = went at signs
  cases signs with
  | uncached _ plain => cases plain
  | refuses => exact .scans _ _ (.refl r) (by simp) (fun _ ended => by cases ended) fun _ => trivial
  | joins cache there =>
    cases there
    exact .registers _ _ _ _ _ _ _ (.refl r) (by simp) _ (Or.inl rfl) fits
  | breaks cache there signed links given fault clock =>
    cases there
    exact .breaks _ _ _ _ _ _ _ (.refl r) (by simp) _ (Or.inl rfl) (Or.inl clock)

theorem of_listed {listing : Listing} {answer : Except Fault (List FileAction)} :
    Stretch c m r (some (.scan (.files listing))) reply
      ((Site.listed ⟨r, some c⟩ m listing answer).map id .scan) := by
  cases answer with
  | error fault => exact .scans _ _ (.refl r) (by simp) (fun _ ended => by cases ended) fun _ => trivial
  | ok actions =>
    exact of_register r c m _ _ _ (by simp) fun expects =>
      Resolver.outcome_fits listing (expects (.scan (.files listing)) rfl) actions

theorem of_changesListed {listing : ChangeListing} {answer : Except Fault ChangeFiles} :
    Stretch c m r (some (.scan (.changes listing))) reply
      ((Site.changesListed ⟨r, some c⟩ m listing answer).map id .scan) := by
  cases answer with
  | error fault => exact .scans _ _ (.refl r) (by simp) (fun _ ended => by cases ended) fun _ => trivial
  | ok changes =>
    exact of_register r c m _ _ _ (by simp) fun expects =>
      Resolver.ofChanges_fits (expects (.scan (.changes listing)) rfl) _

theorem of_resolveBatch {table : TableReference} {actions : List FileAction} {start : Int} {last : Option Int} :
    Stretch c m r none none ((Site.resolveBatch ⟨r, some c⟩ m table actions start last).map id .scan) := by
  unfold Site.resolveBatch
  cases fingerprinted : Fingerprint.range start last with
  | error e => exact .scans _ _ (.refl r) (by simp) (fun _ ended => by cases ended) fun _ => trivial
  | ok fingerprint =>
    exact of_register r c m _ _ _ (by simp) fun _ =>
      Resolver.ofListing_fits (Fingerprint.range_ne_empty fingerprinted) actions

theorem of_read {path : String} :
    Stretch c m r none none ((Site.read ⟨r, some c⟩ m path).map id .read) := by
  unfold Site.read
  cases FilePath.decode r.settings.scheme path with
  | error e => exact .bypasses _ (by simp) (Or.inl ⟨_, rfl⟩)
  | ok file =>
    cases caching : r.settings.linkCache with
    | true =>
      simp only [Site.linkCache?, caching, ↓reduceIte]
      exact .looks _ (Or.inl rfl)
    | false =>
      simp only [Site.linkCache?, caching, Bool.false_eq_true, ↓reduceIte, Resolver.beginDirectRead]
      split
      · exact .bypasses _ (by simp) (Or.inl ⟨_, rfl⟩)
      · exact .bypasses _ (by simp) (Or.inl ⟨_, rfl⟩)
      · exact .bypasses _ (by simp) (Or.inr (Or.inl ⟨_, _, rfl⟩))

/-- A call goes on as its stage and the reply have it. -/
theorem of_resume {stage : Stage} {reply : Reply} {went : Site × Stage}
    (resumed : Site.resume ⟨r, some c⟩ m stage reply = some went) :
    Stretch c m r (some stage) (some reply) went := by
  unfold Site.resume at resumed
  split at resumed
  · cases resumed
    obtain ⟨alike, pending, expects⟩ := Resolver.checked_expects r ‹_› ‹_›
    exact .scans _ _ alike (by simp) (fun scan ended => absurd ended (pending scan)) fun _ => expects
  · cases resumed
    exact of_listed
  · cases resumed
    exact of_changesListed
  · cases resumed
    exact of_signed
  · cases resumed
    exact .looks _ (Or.inr ⟨_, rfl⟩)
  · cases resumed
    exact .refreshed _ _ _ rfl
  · cases resumed
    exact .bypasses _ (by simp) (Or.inr (Or.inr ⟨_, rfl⟩))
  · cases resumed

end Stretch

namespace Session

/-- The changes that an event can make. -/
inductive Change (s : Session) (e : Event) : Session → Prop
  | enters (settings : ResolverSettings) (location mark : String) (issuer : Option Issuer) :
      Change s e { s with resolvers := s.resolvers ++ [.new settings location mark issuer] }
  | plans (i : Nat) (r r' : Resolver) (known : s.resolvers[i]? = some r) (alike : r.Alike r') :
      Change s e { s with resolvers := s.resolvers.set i r' }
  | goes (call i : Nat) (r : Resolver) (stage : Option Stage) (reply : Option Reply) (went : Site × Stage)
      (known : s.resolvers[i]? = some r)
      (before : s.calls.get? call = stage.map (⟨i, ·⟩))
      (asked : ∀ answer, reply = some answer → e.action = .reply call answer)
      (stretch : Stretch s.cache e.moment r stage reply went) : Change s e (s.record call i went)
  | closes (i : Nat) (r : Resolver) (known : s.resolvers[i]? = some r) (asked : e.action = .close i) :
      Change s e { s with
        cache := r.registered.foldl Cache.release s.cache
        resolvers := s.resolvers.set i { r with registered := [] }
        scans := s.scans.filter (·.1 ≠ i) }
  | sweeps : Change s e { s with cache := (s.cache.sweep e.moment).1 }

theorem Goes.change {s : Session} {e : Event} {call i : Nat} {r : Resolver} {went : Site × Stage}
    (goes : Goes s e call i r went) : Change s e (s.record call i went) := by
  cases goes with
  | scans purpose table params taken unused known =>
    obtain ⟨pending, expects⟩ := Resolver.begin_expects r purpose table params
    exact .goes call i r none none _ known unused (by simp)
      (.scans _ _ (.refl r) (by simp) (fun scan ended => absurd ended (pending scan)) fun _ => expects)
  | scansBatch table actions start last taken unused known =>
    exact .goes call i r none none _ known unused (by simp) .of_resolveBatch
  | reads path taken unused known => exact .goes call i r none none _ known unused (by simp) .of_read
  | resumes reply taken stage before known resumed =>
    exact .goes call i r (some stage) (some reply) went known before (by simp [taken]) (.of_resume resumed)

theorem step_cases (s : Session) (e : Event) : s.step e = s ∨ Change s e (s.step e) := by
  obtain same | move := step_moves s e
  · exact Or.inl same
  · refine Or.inr ?_
    generalize s.step e = s' at move
    cases move with
    | enters settings location mark issuer => exact .enters ..
    | plans i version answer r taken known => exact .plans i r _ known (r.plan_planned version answer).alike
    | goes call i r went goes => exact goes.change
    | closes i r taken known => exact .closes i r known taken
    | sweeps => exact .sweeps

/-- What every change keeps stays as events go on. -/
theorem run_keeps (holds : Session → Prop) {settings : CacheSettings} {later earlier : List Event}
    (held : holds (run settings earlier))
    (kept : ∀ {s s' e}, e ∈ later → holds s → Change s e s' → holds s') :
    holds (run settings (later ++ earlier)) := by
  induction later with
  | nil => exact held
  | cons e later ih =>
    have before := ih fun member => kept (List.mem_cons_of_mem e member)
    obtain same | change := step_cases (run settings (later ++ earlier)) e
    · show holds ((run settings (later ++ earlier)).step e)
      rwa [same]
    · exact kept List.mem_cons_self before change

/-- What holds of a new cache without resolvers and is kept by every change
holds after every history. -/
theorem run_holds (holds : Session → Prop) {settings : CacheSettings} {events : List Event}
    (start : holds (run settings [])) (kept : ∀ {s s' e}, e ∈ events → holds s → Change s e s' → holds s') :
    holds (run settings events) := by
  have kept := run_keeps holds start kept
  rwa [List.append_nil] at kept

end Session
end SharedTables
