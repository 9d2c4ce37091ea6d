import SharedTables.Proofs.Resolver.Plans

/-! Scans that have found a plan. They compare the live metadata with it before
they ask for any files, and end there if the table has changed; up to then they
leave the cache and the resolvers alone. -/
namespace SharedTables

open Session (Stage Reply)

/-- Where a scan can be that has found a plan, once the metadata have been answered, or have not. -/
inductive Guarded (planned : TableMetadata) (mode : SchemaMatch) (check : PlanCheck) :
    Option (Except Fault TableMetadata) → Stage → Prop
  | waits : Guarded planned mode check none (.scan (.metadata check))
  | fails (fault : Fault) :
      Guarded planned mode check (some (.error fault)) (.scan (.done (.error (.collaborator fault))))
  | refuses (live : TableMetadata) (e : ScanError) (differs : live.checkAgainst planned mode = .error e) :
      Guarded planned mode check (some (.ok live)) (.scan (.done (.error e)))
  | agrees (live : TableMetadata) (same : live.checkAgainst planned mode = .ok ()) (stage : Stage) :
      Guarded planned mode check (some (.ok live)) stage

/-- The answer of the server leaves a scan that has found a plan guarded by it, and sets no plan. -/
theorem Resolver.checked_guarded {planned : TableMetadata} (r : Resolver) (found : check.planned = some planned)
    (answer : Except Fault TableMetadata) : (r.checked check answer).1 = r ∧
      Guarded planned r.settings.schemaMatch check (some answer) (.scan (r.checked check answer).2) := by
  cases answer with
  | error fault =>
    simp only [checked, finishCheck, found]
    exact ⟨trivial, .fails fault⟩
  | ok live =>
    cases compared : live.checkAgainst planned r.settings.schemaMatch with
    | error e =>
      simp only [checked, finishCheck, found, compared]
      exact ⟨trivial, .refuses live e compared⟩
    | ok =>
      refine ⟨?_, .agrees live compared _⟩
      rw [checked_resolver]
      simp only [finishCheck, found, compared]

namespace Session

variable {s : Session} {e : Event} {call i : Nat} {r : Resolver} {stage : Stage} {settings : CacheSettings}
  {events : List Event} {planned : TableMetadata} {check : PlanCheck}

/-- Whether an event changes neither the cache nor a resolver. -/
structure Spares (s : Session) (e : Event) : Prop where
  cache : (s.step e).cache = s.cache
  resolvers : (s.step e).resolvers = s.resolvers

theorem Spares.of_record (known : s.resolvers[i]? = some r) (stepped : s.step e = s.record call i (s.site r, stage)) :
    s.Spares e := by
  obtain ⟨inside, rfl⟩ := List.getElem?_eq_some_iff.mp known
  refine ⟨?_, ?_⟩ <;> rw [stepped]
  · rfl
  · exact List.set_getElem_self inside

/-- A scan of a version that has a plan begins with a check against it. -/
theorem planned_scan_begins (m : Moment) {purpose : ScanPurpose} {table : TableReference} {params : ScanParameters}
    (known : s.resolvers[i]? = some r) (unused : s.calls.get? call = none) (snapshot : params.changes = false)
    (before : s.planFor i params.version = some planned) :
    ∃ key, s.step ⟨m, .scan call i purpose table params⟩ =
      s.record call i (s.site r, .scan (.metadata ⟨purpose, table, params, key, some planned⟩)) := by
  rw [planFor_known known] at before
  obtain ⟨key, keyed, there⟩ := Resolver.planFor_eq_some_iff.mp before
  have begun : r.begin purpose table params = .metadata ⟨purpose, table, params, key, some planned⟩ := by
    simp [Resolver.begin, snapshot, Resolver.beginCheck, keyed, there]
  have goes : Goes s ⟨m, .scan call i purpose table params⟩ call i r (s.site r, .scan (r.begin purpose table params)) :=
    .scans purpose table params rfl unused known
  exact ⟨key, begun ▸ goes.step_eq⟩

theorem settings_run (known : (run settings events).resolvers[i]? = some r) (later : List Event) :
    ∃ r', (run settings (later ++ events)).resolvers[i]? = some r' ∧ r'.settings = r.settings := by
  refine run_keeps (fun s => ∃ r', s.resolvers[i]? = some r' ∧ r'.settings = r.settings) ⟨r, known, rfl⟩ ?_
  rintro s s' e - ⟨r', known', same⟩ change
  obtain ⟨r'', known'', same', -⟩ := change.keeps_resolver known'
  exact ⟨r'', known'', same'.trans same⟩

/-- A scan that has begun with a check stays guarded by the plan that it has found. -/
theorem guarded_run (known : (run settings events).resolvers[i]? = some r) (found : check.planned = some planned)
    (begun : (run settings events).calls.get? call = some ⟨i, .scan (.metadata check)⟩) (later : List Event) :
    ∃ stage, (run settings (later ++ events)).calls.get? call = some ⟨i, stage⟩ ∧
      Guarded planned r.settings.schemaMatch check (firstAnswer Reply.metadata? call later) stage := by
  induction later with
  | nil => exact ⟨_, begun, .waits⟩
  | cons e later ih =>
    obtain ⟨stage, reached, guarded⟩ := ih
    rw [List.cons_append, run, firstAnswer]
    generalize firstAnswer Reply.metadata? call later = answer at guarded
    -- Only a scan that waits can hear the answer; one that has been refused has ended.
    cases guarded with
    | waits =>
      rw [Option.none_or]
      cases given : (e.replyTo? call).bind Reply.metadata? with
      | none =>
        refine ⟨_, step_stays reached fun reply taken site => ?_, .waits⟩
        cases reply with
        | metadata answer => simp [taken, Reply.metadata?] at given
        | files | changes | signature | wakeUp => rfl
      | some answer =>
        obtain ⟨reply, taken, answered⟩ := Option.bind_eq_some_iff.mp given
        obtain ⟨r', known', same⟩ := settings_run known later
        cases reply with
        | metadata answer' =>
          cases answered
          rw [answered_step reached known' (Event.replyTo?_eq_some_iff.mp taken), record_calls, if_pos rfl, ← same]
          exact ⟨_, rfl, (r'.checked_guarded found answer).2⟩
        | files | changes | signature | wakeUp => cases answered
    | fails fault =>
      exact ⟨_, step_stays reached fun reply _ site => by cases reply <;> rfl, .fails fault⟩
    | refuses live e differs =>
      exact ⟨_, step_stays reached fun reply _ site => by cases reply <;> rfl, .refuses live e differs⟩
    | agrees live same =>
      obtain ⟨stage', reached'⟩ := call_stays reached e
      exact ⟨stage', reached', .agrees live same stage'⟩

/-- What a resolver lists follows from its settings. -/
theorem beginListing_of_settings {r r' : Resolver} (same : r'.settings = r.settings) (check : PlanCheck)
    (metadata : TableMetadata) : r'.beginListing check metadata = r.beginListing check metadata := by
  simp only [Resolver.beginListing, Resolver.listingFingerprint, Resolver.listingRequest, Resolver.hints,
    Resolver.fingerprintPredicates, Resolver.effectiveLimit, same]

/-- A scan whose table still agrees with the plan asks for its files. -/
theorem agreeing_scan_lists {r' : Resolver} {live : TableMetadata} {listing : Listing}
    (waiting : s.calls.get? call = some ⟨i, .scan (.metadata check)⟩) (known : s.resolvers[i]? = some r')
    (same : r'.settings = r.settings) (found : check.planned = some planned)
    (taken : e.action = .reply call (.metadata (.ok live)))
    (agrees : live.checkAgainst planned r.settings.schemaMatch = .ok ())
    (lists : r.beginListing check planned = .ok listing) :
    (s.step e).calls.get? call = some ⟨i, .scan (.files listing)⟩ := by
  have checked : r'.checked check (.ok live) = (r', .files listing) := by
    simp only [Resolver.checked, Resolver.finishCheck, found, same, agrees, beginListing_of_settings same, lists]
  rw [answered_step waiting known taken, record_calls, if_pos rfl, checked]

end Session

/-- A scan that is guarded changes nothing as long as the live metadata have not been found to agree. -/
theorem Guarded.spares {s : Session} {e : Session.Event} {call i : Nat} {planned : TableMetadata} {mode : SchemaMatch}
    {check : PlanCheck} {answer : Option (Except Fault TableMetadata)} {stage : Stage}
    (guarded : Guarded planned mode check answer stage) (found : check.planned = some planned)
    (reached : s.calls.get? call = some ⟨i, stage⟩) (own : e.call? = some call)
    (unlike : ∀ live, answer = some (.ok live) → live.checkAgainst planned mode ≠ .ok ()) : s.Spares e := by
  obtain same | move := Session.step_moves s e
  · exact ⟨congrArg Session.cache same, congrArg Session.resolvers same⟩
  · generalize s.step e = s' at move
    cases move with
    | enters _ _ _ _ taken | plans _ _ _ _ taken | closes _ _ taken | sweeps taken =>
      simp [Session.Event.call?, taken] at own
    | goes other j r went goes =>
      cases own.symm.trans goes.call?_eq
      cases goes with
      | scans _ _ _ _ unused | scansBatch _ _ _ _ _ unused | reads _ _ unused => cases unused.symm.trans reached
      | resumes reply taken stage' before known resumed =>
        cases before.symm.trans reached
        cases guarded with
        | fails | refuses => cases reply <;> cases resumed
        | agrees live same => exact absurd same (unlike live rfl)
        | waits =>
          cases reply with
          | metadata answer =>
            have stepped := Session.answered_step reached known taken
            rw [(r.checked_guarded found answer).1] at stepped
            exact .of_record known stepped
          | files | changes | signature | wakeUp => cases resumed

namespace Session

/-- How the plan that a scan has found guards it, at a point after it has begun. -/
structure PlanGuards (s : Session) (i call : Nat) (r : Resolver) (check : PlanCheck) (planned : TableMetadata)
    (answer : Option (Except Fault TableMetadata)) : Prop where
  /-- Before the metadata have been answered, and from then on unless they agree
  with the plan, the scan asks for nothing else. -/
  stands : ∃ stage, s.calls.get? call = some ⟨i, stage⟩ ∧
    Guarded planned r.settings.schemaMatch check answer stage
  /-- As long as they have not been found to agree, it changes neither the cache nor a resolver. -/
  spares : (∀ live, answer = some (.ok live) → live.checkAgainst planned r.settings.schemaMatch ≠ .ok ()) →
    ∀ e, e.call? = some call → s.Spares e
  /-- If they agree, it asks for the files. -/
  lists : ∀ e live listing, answer = none → e.action = .reply call (.metadata (.ok live)) →
    live.checkAgainst planned r.settings.schemaMatch = .ok () → r.beginListing check planned = .ok listing →
    (s.step e).calls.get? call = some ⟨i, .scan (.files listing)⟩
  /-- Where both schemas can be read, it ends with how the table differs. -/
  refuses : ∀ live plannedSchema liveSchema difference, answer = some (.ok live) →
    planned.schema = .ok plannedSchema → live.schema = .ok liveSchema →
    Schema.checkCompatible r.settings.schemaMatch plannedSchema liveSchema planned.partitionColumns
      live.partitionColumns = .error difference →
    s.calls.get? call = some ⟨i, .scan (.done (.error (.mismatch difference)))⟩

theorem planGuards_run (known : (run settings events).resolvers[i]? = some r) (found : check.planned = some planned)
    (begun : (run settings events).calls.get? call = some ⟨i, .scan (.metadata check)⟩) (later : List Event) :
    PlanGuards (run settings (later ++ events)) i call r check planned
      (firstAnswer Reply.metadata? call later) := by
  obtain ⟨stage, reached, guarded⟩ := guarded_run known found begun later
  refine ⟨⟨stage, reached, guarded⟩, fun unlike e own => guarded.spares found reached own unlike, ?_, ?_⟩
  · intro e live listing unanswered taken agrees lists
    obtain ⟨r', known', same⟩ := settings_run known later
    rw [unanswered] at guarded
    cases guarded
    exact agreeing_scan_lists reached known' same found taken agrees lists
  · intro live plannedSchema liveSchema difference answered readable readable' differs
    have compared : live.checkAgainst planned r.settings.schemaMatch = .error (.mismatch difference) := by
      simp only [TableMetadata.checkAgainst, readable, readable', differs]
    rw [answered] at guarded
    cases guarded with
    | refuses _ e other =>
      cases compared.symm.trans other
      exact reached
    | agrees _ same => cases compared.symm.trans same

/-- The plan of a version is set by planning, and by the metadata that come for a
scan of the version that had found no plan when it began; nothing else changes it.
If a resolver is asked for one thing after the other, a plan stays until the
resolver plans its version again. Each scan of the version that begins under a plan
is guarded by it. -/
theorem plans_guard_scans (settings : CacheSettings) (events : List Event) (i : Nat) (version : Option Version) :
    let s := run settings events
    (∀ e, (∀ metadata, ¬ SetsPlan s e i version metadata) → (s.step e).planFor i version = s.planFor i version) ∧
    (∀ e metadata r key, SetsPlan s e i version metadata → s.resolvers[i]? = some r →
      Version.key version = .ok key → (s.step e).planFor i version = some metadata) ∧
    (∀ call check, s.calls.get? call = some ⟨i, .scan (.metadata check)⟩ →
      Once settings events fun s e =>
        e.Scans call i check.params.version ∧ s.planFor i check.params.version = check.planned) ∧
    ∀ planned, s.planFor i version = some planned →
      (∀ later, OneByOne settings i (later ++ events) →
        (∀ e ∈ later, ∀ metadata, e.action ≠ .plan i version (.ok metadata)) →
        (run settings (later ++ events)).planFor i version = some planned) ∧
      ∀ m call purpose table params r, s.calls.get? call = none → s.resolvers[i]? = some r →
        params.version = version → params.changes = false →
        let begins : Event := ⟨m, .scan call i purpose table params⟩
        s.Spares begins ∧ ∃ key, ∀ later,
          PlanGuards (run settings (later ++ begins :: events)) i call r
            ⟨purpose, table, params, key, some planned⟩ planned (firstAnswer Reply.metadata? call later) := by
  intro s
  refine ⟨fun e unset => ?_, fun e metadata r key sets => sets.planFor_eq, fun call check => waiting_run,
    fun planned before => ⟨fun later ordered => plan_stays ordered before, ?_⟩⟩
  · obtain same | ⟨metadata, sets, -⟩ := step_planFor s e i version
    · exact same
    · exact absurd sets (unset metadata)
  · rintro m call purpose table params r unused known rfl snapshot begins
    obtain ⟨key, begun⟩ := planned_scan_begins m known unused snapshot before
    have spared : s.Spares begins := .of_record known begun
    have waiting : (run settings (begins :: events)).calls.get? call =
        some ⟨i, .scan (.metadata ⟨purpose, table, params, key, some planned⟩)⟩ := by
      rw [run, begun, record_calls, if_pos rfl]
    exact ⟨spared, key, planGuards_run (spared.resolvers ▸ known) rfl waiting⟩

/-- The partition columns of a table change after its scans have been planned. The
next scan is refused, and the plan stays. -/
theorem repartitioned_table_is_refused :
    let settings : CacheSettings := ⟨none, 0, 10, 10, 60⟩
    let lazy : ResolverSettings := ⟨⟨true, false⟩, true, true, .exact, .lazy, "share"⟩
    let table : TableReference := ⟨"share", "schema", "orders"⟩
    let planned : TableMetadata := ⟨"\x7b\"type\":\"struct\",\"fields\":[]\x7d", []⟩
    let live : TableMetadata := ⟨planned.schemaText, ["region"]⟩
    let now (action : Action) : Event := ⟨.still 0 0, action⟩
    let entered := [now (.enter lazy "orders" "" none)]
    let events := now (.plan 0 none (.ok planned)) :: entered
    let scan := now (.scan 0 0 .rows table ⟨[], [], none, none, false⟩)
    let after := run settings (now (.reply 0 (.metadata (.ok live))) :: scan :: events)
    (run settings entered).planFor 0 none = none ∧ (run settings events).planFor 0 none = some planned ∧
      after.planFor 0 none = some planned ∧
      after.calls.get? 0 = some ⟨0, .scan (.done (.error (.mismatch (.partitionColumns [] ["region"]))))⟩ := by
  intro settings lazy table planned live now entered events scan after
  let later := [now (.reply 0 (.metadata (.ok live)))]
  obtain ⟨-, sets, -⟩ := plans_guard_scans settings entered 0 none
  have before : (run settings events).planFor 0 none = some planned :=
    sets (now (.plan 0 none (.ok planned))) planned _ "latest" (.plans rfl) rfl rfl
  obtain ⟨-, -, -, guarded⟩ := plans_guard_scans settings events 0 none
  obtain ⟨stays, guards⟩ := guarded planned before
  have idle (call : Nat) : (run settings events).calls.get? call = none := rfl
  have ordered : OneByOne settings 0 (later ++ scan :: events) := by
    refine ⟨⟨⟨⟨trivial, fun _ _ _ waiting => nomatch waiting⟩, fun _ _ _ waiting => nomatch waiting⟩,
      fun _ call _ waiting => nomatch (idle call).symm.trans waiting⟩, ?_⟩
    rintro (⟨_, _, taken⟩ | ⟨_, _, _, _, _, taken, -⟩) <;> cases taken
  have unplanned : ∀ e ∈ later ++ [scan], ∀ metadata, e.action ≠ .plan 0 none (.ok metadata) := by
    simp [later, now, scan]
  have readable : planned.schema.isOk = true := by decide +kernel
  obtain ⟨schema, read⟩ : ∃ schema, planned.schema = .ok schema := by
    cases read : planned.schema with
    | ok schema => exact ⟨schema, rfl⟩
    | error e => simp [read, Except.isOk, Except.toBool] at readable
  obtain ⟨-, key, guards⟩ := guards (.still 0 0) 0 .rows table ⟨[], [], none, none, false⟩ _ (idle 0) rfl rfl rfl
  have differs : Schema.checkCompatible .exact schema schema planned.partitionColumns live.partitionColumns =
      .error (.partitionColumns [] ["region"]) := by simp [Schema.checkCompatible, planned, live]
  have refused := (guards later).refuses live schema schema _ rfl read read differs
  exact ⟨by decide +kernel, before, stays (later ++ [scan]) ordered unplanned, refused⟩

end Session
end SharedTables
