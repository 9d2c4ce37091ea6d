import SharedTables.Proofs.Resolver.OpenScans

/-! Resolvers that keep no links in the cache. Each stretch of their calls does
the same whatever the cache is and hands it on as it was; a resolver that has
registered nothing has nothing to release either. So no event of such a resolver
reads the cache or changes it, whoever else uses it. -/
namespace SharedTables

open Session (Stage Reply)

/-- Whether a call has nothing to do with the cache. -/
def Session.Stage.Plain : Stage → Prop
  | .scan (.sign _) => False
  | .read (.cached _) => False
  | _ => True

/-- Whether a call waits for the files of a scan whose metadata give no partition schema. -/
def Session.Stage.Unpartitioned (stage : Stage) : Prop :=
  ∃ listing, stage = .scan (.files listing) ∧ listing.purpose = .rows ∧
    ∃ cause, listing.metadata.partitionSchema = .error cause

/-- The table that a reply lists for a call, with the key under which it is remembered. -/
def Resolver.lists? (r : Resolver) : Stage → Reply → Option (String × TableReference)
  | .scan (.files listing), .files (.ok _) => some ((r.place listing.fingerprint).tableKey, listing.request.table)
  | .scan (.changes listing), .changes (.ok _) => some ((r.place listing.fingerprint).tableKey, listing.table)
  | _, _ => none

/-- How a stretch of a plain call can go: either it lists a table, and ends there,
or the tables that the resolver remembers stay the same. -/
inductive Resolver.GoesPlainly (r : Resolver) (before : Option Stage) :
    Option (String × TableReference) → Resolver → Stage → Prop
  | goesOn (r' : Resolver) (after : Stage) (alike : r.Alike r') (tables : r'.tables = r.tables) (plain : after.Plain)
      (going : ∀ scan, after ≠ .scan (.done (.ok scan))) : r.GoesPlainly before none r' after
  | lists (key : String) (table : TableReference) (fileIds : List String) (outcome : Except ScanError ResolvedScan)
      (fits : (∀ stage, before = some stage → r.Expects stage) → r.Fits key fileIds outcome)
      (fails : ∀ e, outcome = .error e → ∃ stage, before = some stage ∧ stage.Unpartitioned) :
      r.GoesPlainly before (some (key, table)) (r.rememberTable key table) (.scan (.done outcome))

section

variable {r r' : Resolver} {m : Moment} {before : Option Stage} {stage after : Stage} {reply : Reply}
  {listed : Option (String × TableReference)}

theorem Resolver.GoesPlainly.alike (goes : r.GoesPlainly before listed r' after) : r.Alike r' ∧ after.Plain := by
  cases goes with
  | goesOn r' after alike tables plain => exact ⟨alike, plain⟩
  | lists => exact ⟨⟨rfl, rfl⟩, trivial⟩

theorem Resolver.begin_plainly (r : Resolver) (purpose : ScanPurpose) (table : TableReference)
    (params : ScanParameters) : r.GoesPlainly before none r (.scan (r.begin purpose table params)) := by
  have begins := r.begin_begins purpose table params
  generalize r.begin purpose table params = progress at begins
  cases begins <;> exact .goesOn _ _ (.refl r) rfl trivial (by simp)

theorem Resolver.checked_plainly (r : Resolver) (check : PlanCheck) (answer : Except Fault TableMetadata) :
    r.GoesPlainly before none (r.checked check answer).1 (.scan (r.checked check answer).2) := by
  have checks := r.checked_checks check answer
  generalize r.checked check answer = went at checks
  cases checks with
  | fails r' planned | files r' planned =>
    obtain ⟨planned, rfl⟩ := planned
    exact .goesOn _ _ ⟨rfl, rfl⟩ rfl trivial (by simp)

theorem Resolver.beginDirectRead_plainly (r : Resolver) (path : String) (file : FilePath) :
    r.GoesPlainly before none r (.read (r.beginDirectRead path file)) := by
  unfold beginDirectRead
  split <;> exact .goesOn _ _ (.refl r) rfl trivial (by simp)

namespace Site

/-- Nothing is registered without the cache. -/
theorem register_plain (uncached : r.settings.linkCache = false) (cache : Option Cache) (m : Moment)
    (table : TableReference) (tableKey : String) (actions : List FileAction)
    (outcome : Except ScanError ResolvedScan) : Site.register ⟨r, cache⟩ m table tableKey actions outcome =
      (⟨r.rememberTable tableKey table, cache⟩, .done outcome) := by
  simp [register, linkCache?, Resolver.rememberTable, uncached]

/-- Whether the first stretch of a call is plain, whatever the cache is. -/
def Passes (r : Resolver) (listed : Option (String × TableReference)) (stretch : Site → Site × Stage) : Prop :=
  ∃ r' after, r.GoesPlainly none listed r' after ∧ ∀ cache, stretch ⟨r, cache⟩ = (⟨r', cache⟩, after)

theorem resolveBatch_passes (uncached : r.settings.linkCache = false) (m : Moment) (table : TableReference)
    (actions : List FileAction) (start : Int) (last : Option Int) :
    Passes r ((Fingerprint.range start last).toOption.map fun fingerprint => ((r.place fingerprint).tableKey, table))
      fun s => (s.resolveBatch m table actions start last).map id .scan := by
  cases fingerprinted : Fingerprint.range start last with
  | error e =>
    refine ⟨r, .scan (.done (.error (.fingerprint e))), ?_, fun cache => ?_⟩
    · exact .goesOn _ _ (.refl r) rfl trivial (by simp)
    · simp [resolveBatch, fingerprinted]
  | ok fingerprint =>
    refine ⟨r.rememberTable (r.place fingerprint).tableKey table,
      .scan (.done (.ok (.ofListing (r.place fingerprint) actions))), ?_, fun cache => ?_⟩
    · refine .lists _ _ (actions.map (·.id)) _ (fun _ => ?_) (by simp)
      exact r.ofListing_fits (Fingerprint.range_ne_empty fingerprinted) actions
    · simp [resolveBatch, fingerprinted, register_plain uncached]

theorem read_passes (uncached : r.settings.linkCache = false) (m : Moment) (path : String) :
    Passes r none fun s => (s.read m path).map id .read := by
  cases decoded : FilePath.decode r.settings.scheme path with
  | error e =>
    refine ⟨r, .read (.failed (.path e)), .goesOn _ _ (.refl r) rfl trivial (by simp), fun cache => ?_⟩
    simp [read, decoded]
  | ok file =>
    refine ⟨r, .read (r.beginDirectRead path file), r.beginDirectRead_plainly path file, fun cache => ?_⟩
    simp [read, decoded, linkCache?, uncached]

/-- Whether a later stretch of a call is plain, whatever the cache is. -/
inductive Resumes (r : Resolver) (m : Moment) (stage : Stage) (reply : Reply) : Prop
  | stays (refused : ∀ cache, Site.resume ⟨r, cache⟩ m stage reply = none)
  | goesOn (r' : Resolver) (after : Stage) (plainly : r.GoesPlainly (some stage) (r.lists? stage reply) r' after)
      (resumed : ∀ cache, Site.resume ⟨r, cache⟩ m stage reply = some (⟨r', cache⟩, after))

private theorem listed_resumes (uncached : r.settings.linkCache = false) (listing : Listing)
    (answer : Except Fault (List FileAction)) : Resumes r m (.scan (.files listing)) (.files answer) := by
  cases answer with
  | error fault =>
    exact .goesOn r (.scan (.done (.error (.collaborator fault)))) (.goesOn _ _ (.refl r) rfl trivial (by simp))
      fun cache => rfl
  | ok actions =>
    let place := r.place listing.fingerprint
    have fails (e : ScanError) (failed : listing.outcome place actions = .error e) :
        Stage.Unpartitioned (.scan (.files listing)) := by
      unfold Listing.outcome at failed
      cases purpose : listing.purpose with
      | inputs => simp [purpose] at failed
      | rows =>
        cases derived : listing.metadata.partitionSchema with
        | ok columns => simp [purpose, derived] at failed
        | error cause => exact ⟨listing, rfl, purpose, cause, derived⟩
    refine .goesOn (r.rememberTable place.tableKey listing.request.table)
      (.scan (.done (listing.outcome place actions))) ?_ fun cache => ?_
    · refine .lists _ _ ((listing.kept actions).map (·.id)) _ (fun expects => ?_) fun e failed => ?_
      · exact Resolver.outcome_fits listing (expects _ rfl) actions
      · exact ⟨_, rfl, fails e failed⟩
    · simp [resume, Site.listed, register_plain uncached, place]

private theorem changesListed_resumes (uncached : r.settings.linkCache = false) (listing : ChangeListing)
    (answer : Except Fault ChangeFiles) : Resumes r m (.scan (.changes listing)) (.changes answer) := by
  cases answer with
  | error fault =>
    exact .goesOn r (.scan (.done (.error (.collaborator fault)))) (.goesOn _ _ (.refl r) rfl trivial (by simp))
      fun cache => rfl
  | ok changes =>
    let place := r.place listing.fingerprint
    let groups := changes.within listing.limit
    refine .goesOn (r.rememberTable place.tableKey listing.table) (.scan (.done (.ok (.ofChanges place groups)))) ?_
      fun cache => ?_
    · refine .lists _ _ ((groups.flatMap (·.2)).map (·.id)) _ (fun expects => ?_) (by simp)
      exact Resolver.ofChanges_fits (expects _ rfl) groups
    · simp [resume, changesListed, register_plain uncached, place, groups]

/-- By cases on what the call waits for; an answer to something else changes nothing. -/
theorem plain_resumes (uncached : r.settings.linkCache = false) (plain : stage.Plain) (m : Moment) (reply : Reply) :
    Resumes r m stage reply := by
  cases stage with
  | link result => exact .stays fun cache => rfl
  | scan progress =>
    cases progress with
    | done result => exact .stays fun cache => rfl
    | sign registration => exact plain.elim
    | metadata check =>
      cases reply with
      | metadata answer => exact .goesOn _ _ (r.checked_plainly check answer) fun cache => rfl
      | files | changes | signature | wakeUp => exact .stays fun cache => rfl
    | files listing =>
      cases reply with
      | files answer => exact listed_resumes uncached listing answer
      | metadata | changes | signature | wakeUp => exact .stays fun cache => rfl
    | changes listing =>
      cases reply with
      | changes answer => exact changesListed_resumes uncached listing answer
      | metadata | files | signature | wakeUp => exact .stays fun cache => rfl
  | read progress =>
    cases progress with
    | failed e => exact .stays fun cache => rfl
    | cached progress => exact plain.elim
    | sign issuer direct =>
      cases reply with
      | signature answer =>
        exact .goesOn r (.link (direct.finish answer)) (.goesOn _ _ (.refl r) rfl trivial (by simp)) fun cache => rfl
      | metadata | files | changes | wakeUp => exact .stays fun cache => rfl

end Site
end

namespace Session

/-- The resolver that an event is about. -/
def resolverOf? (s : Session) (e : Event) : Option Nat :=
  match e.action with
  | .plan i _ _ | .scan _ i _ _ _ | .scanBatch _ i _ _ _ _ | .read _ i _ | .close i => some i
  | .reply call _ => (s.calls.get? call).map (·.resolver)
  | .enter .. | .sweep => none

/-- Whether an event neither reads the cache nor changes it. -/
structure Ignores (s : Session) (e : Event) : Prop where
  unchanged : (s.step e).cache = s.cache
  unread : ∀ c, { s with cache := c }.step e = { s.step e with cache := c }

/-- Whether the resolvers without cached links have registered nothing, and their calls are plain. -/
structure Secluded (s : Session) : Prop where
  unregistered : ∀ (i : Nat) (r : Resolver), s.resolvers[i]? = some r → r.settings.linkCache = false →
    r.registered = []
  plain : ∀ (call i : Nat) (stage : Stage), s.calls.get? call = some ⟨i, stage⟩ →
    ∃ r : Resolver, s.resolvers[i]? = some r ∧ (r.settings.linkCache = false → stage.Plain)

/-- A table that has been listed for a resolver under a key. -/
structure TableListing where
  resolver : Nat
  key : String
  table : TableReference
  deriving DecidableEq

/-- The table that an event lists for a resolver. -/
def listing? (s : Session) (e : Event) : Option TableListing :=
  match e.action with
  | .scanBatch call i table _ start last =>
    match s.calls.get? call, s.resolvers[i]? with
    | none, some r =>
      (Fingerprint.range start last).toOption.map fun fingerprint => ⟨i, (r.place fingerprint).tableKey, table⟩
    | _, _ => none
  | .reply call reply =>
    match s.calls.get? call with
    | none => none
    | some ⟨i, stage⟩ =>
      match s.resolvers[i]? with
      | none => none
      | some r => (r.lists? stage reply).map fun listed => ⟨i, listed.1, listed.2⟩
  | _ => none

variable {s : Session} {e : Event} {call i : Nat} {r : Resolver} {went : Site × Stage}

theorem start_ignores {stretch : Site → Site × Stage} (known : s.resolvers[i]? = some r)
    (passes : Site.Passes r listed stretch) (call : Nat) : (s.start call i stretch).cache = s.cache ∧
      ∀ c, { s with cache := c }.start call i stretch = { s.start call i stretch with cache := c } := by
  obtain ⟨r', after, -, same⟩ := passes
  unfold start
  simp only [known]
  cases s.calls.get? call with
  | some before => exact ⟨rfl, fun c => rfl⟩
  | none => simp [record, site, same]

/-- By cases on the event: each of the calls of the resolver is plain. -/
theorem Secluded.ignores (secluded : Secluded s) (known : s.resolvers[i]? = some r)
    (uncached : r.settings.linkCache = false) (own : s.resolverOf? e = some i) : Ignores s e := by
  have unregistered := secluded.unregistered i r known uncached
  obtain ⟨m, action⟩ := e
  suffices (s.step ⟨m, action⟩).cache = s.cache ∧
      ∀ c, { s with cache := c }.step ⟨m, action⟩ = { s.step ⟨m, action⟩ with cache := c } from ⟨this.1, this.2⟩
  cases action with
  | enter | sweep => cases own
  | plan j version answer =>
    cases own
    simp [step, known]
  | scan call j purpose table params =>
    cases own
    exact start_ignores known ⟨r, _, r.begin_plainly purpose table params, fun cache => rfl⟩ call
  | scanBatch call j table actions start last =>
    cases own
    exact start_ignores known (Site.resolveBatch_passes uncached m table actions start last) call
  | read call j path =>
    cases own
    exact start_ignores known (Site.read_passes uncached m path) call
  | close j =>
    cases own
    simp [step, close, known, site, Site.close, unregistered]
  | reply call reply =>
    obtain ⟨⟨j, stage⟩, before, same⟩ := Option.map_eq_some_iff.mp own
    cases same
    obtain ⟨r', known', plain⟩ := secluded.plain call _ stage before
    cases known.symm.trans known'
    simp only [step, resume, before, known, site]
    cases Site.plain_resumes uncached (plain uncached) m reply with
    | stays refused => simp [refused]
    | goesOn r' after plainly resumed => simp [resumed, record]

/-- A call of a resolver that keeps no links in the cache goes on plainly, with
what the event lists for it. -/
theorem Secluded.goes (secluded : Secluded s) (goes : Goes s e call i r went)
    (uncached : r.settings.linkCache = false) :
    ∃ before listed, s.calls.get? call = before.map (⟨i, ·⟩) ∧
      s.listing? e = listed.map (fun listed => ⟨i, listed.1, listed.2⟩) ∧
      r.GoesPlainly before listed went.1.resolver went.2 := by
  have passed {listed : Option (String × TableReference)} {stretch : Site → Site × Stage}
      (passes : Site.Passes r listed stretch) :
      r.GoesPlainly none listed (stretch (s.site r)).1.resolver (stretch (s.site r)).2 := by
    obtain ⟨r', after, plainly, same⟩ := passes
    rw [site, same]
    exact plainly
  cases goes with
  | scans purpose table params taken unused =>
    exact ⟨none, none, unused, by simp [listing?, taken], r.begin_plainly purpose table params⟩
  | scansBatch table actions start last taken unused known =>
    refine ⟨none, _, unused, ?_, passed (Site.resolveBatch_passes uncached e.moment table actions start last)⟩
    simp [listing?, taken, unused, known, Function.comp_def]
  | reads path taken unused =>
    exact ⟨none, none, unused, by simp [listing?, taken], passed (Site.read_passes uncached e.moment path)⟩
  | resumes reply taken stage before known resumed =>
    obtain ⟨r', known', plain⟩ := secluded.plain call i stage before
    cases known.symm.trans known'
    cases Site.plain_resumes uncached (plain uncached) e.moment reply with
    | stays refused => cases (refused _).symm.trans resumed
    | goesOn r' after plainly same =>
      cases (same _).symm.trans resumed
      exact ⟨some stage, _, before, by simp [listing?, taken, before, known], plainly⟩

/-- A resolver that is replaced keeps its settings, and has no records if it keeps no links in the cache. -/
theorem Secluded.set (secluded : Secluded s) (known : s.resolvers[i]? = some r) {r' : Resolver}
    (settings : r'.settings = r.settings) (registered : r.settings.linkCache = false → r'.registered = []) :
    (∀ (j : Nat) (other : Resolver), (s.resolvers.set i r')[j]? = some other → other.settings.linkCache = false →
      other.registered = []) ∧
    ∀ (j : Nat) (other : Resolver), s.resolvers[j]? = some other →
      ∃ other' : Resolver, (s.resolvers.set i r')[j]? = some other' ∧ other'.settings = other.settings := by
  refine ⟨fun j other there uncached => ?_, fun j other there => ?_⟩
  · rw [getElem?_set_known known] at there
    split at there
    · cases there
      exact registered (settings ▸ uncached)
    · exact secluded.unregistered j other there uncached
  · rw [getElem?_set_known known]
    split
    · rename_i same
      subst same
      cases known.symm.trans there
      exact ⟨r', rfl, settings⟩
    · exact ⟨other, there, rfl⟩

theorem Secluded.step (secluded : Secluded s) (e : Event) : Secluded (s.step e) := by
  have kept {resolvers : List Resolver}
      (same : ∀ (j : Nat) (other : Resolver), s.resolvers[j]? = some other →
        ∃ other', resolvers[j]? = some other' ∧ other'.settings = other.settings) (call j : Nat) (stage : Stage)
      (reached : s.calls.get? call = some ⟨j, stage⟩) :
      ∃ r, resolvers[j]? = some r ∧ (r.settings.linkCache = false → stage.Plain) := by
    obtain ⟨other, there, plain⟩ := secluded.plain call j stage reached
    obtain ⟨other', there', settings⟩ := same j other there
    exact ⟨other', there', settings ▸ plain⟩
  obtain same | move := step_moves s e
  · rwa [same]
  · generalize s.step e = s' at move
    cases move with
    | enters settings location mark issuer =>
      refine ⟨fun j r known uncached => ?_, kept fun j other there => ?_⟩
      · rw [List.getElem?_append] at known
        split at known
        · exact secluded.unregistered j r known uncached
        · obtain ⟨_, rfl⟩ := List.getElem?_eq_some_iff.mp known
          simp [Resolver.new]
      · obtain ⟨inside, -⟩ := List.getElem?_eq_some_iff.mp there
        exact ⟨other, (List.getElem?_append_left inside).trans there, rfl⟩
    | plans j version answer r taken known =>
      have alike := (r.plan_planned version answer).alike
      obtain ⟨unregistered, same⟩ := secluded.set known alike.settings fun uncached =>
        alike.registered.trans (secluded.unregistered j r known uncached)
      exact ⟨unregistered, kept same⟩
    | goes call j r went goes =>
      have settings : went.1.resolver.settings = r.settings := by
        obtain ⟨r', there, same, -⟩ := goes.change.keeps_resolver goes.known
        rw [record, getElem?_set_known goes.known, if_pos rfl] at there
        cases there
        exact same
      have plainly (uncached : r.settings.linkCache = false) : r.Alike went.1.resolver ∧ went.2.Plain := by
        obtain ⟨before, listed, -, -, plainly⟩ := secluded.goes goes uncached
        exact plainly.alike
      obtain ⟨unregistered, same⟩ := secluded.set goes.known settings fun uncached =>
        (plainly uncached).1.registered.trans (secluded.unregistered j r goes.known uncached)
      refine ⟨unregistered, fun call' i stage reached => ?_⟩
      rw [record_calls] at reached
      split at reached
      · cases reached
        exact ⟨went.1.resolver, by simp [record, getElem?_set_known goes.known],
          fun uncached => (plainly (settings ▸ uncached)).2⟩
      · exact kept same call' i stage reached
    | closes j r taken known =>
      have settings : { r with registered := [] }.settings = r.settings := rfl
      obtain ⟨unregistered, same⟩ := secluded.set known settings fun _ => rfl
      exact ⟨unregistered, kept same⟩
    | sweeps => exact ⟨secluded.unregistered, secluded.plain⟩

theorem secluded_run (settings : CacheSettings) (events : List Event) : Secluded (run settings events) := by
  induction events with
  | nil => exact ⟨fun _ _ known => (nomatch known), fun _ _ _ reached => (nomatch reached)⟩
  | cons e earlier ih => exact ih.step e

end Session
end SharedTables
