import SharedTables.Proofs.Resolver.OpenScans
import SharedTables.Proofs.Resolver.Provenance

/-! Plans of a resolver, one for each selector of versions. A plan is set by
planning, and by the metadata that come for a scan which has found none. Two scans
that wait at the same time can both have found none, so a scan replaces no plan only
if the resolver is asked for one thing after the other. -/
namespace SharedTables

open Session (Stage Reply)

/-- What scans of a version are checked against. -/
def Resolver.planFor (r : Resolver) (version : Option Version) : Option TableMetadata :=
  (Version.key version).toOption.bind r.planned.get?

/-- What scans of a version by a resolver are checked against. -/
def Session.planFor (s : Session) (i : Nat) (version : Option Version) : Option TableMetadata :=
  s.resolvers[i]?.bind (·.planFor version)

namespace Resolver

variable {r : Resolver} {version : Option Version} {planned : TableMetadata} {check : PlanCheck} {key : String}

theorem planFor_eq_some_iff :
    r.planFor version = some planned ↔ ∃ key, Version.key version = .ok key ∧ r.planned.get? key = some planned := by
  unfold planFor
  cases Version.key version <;> simp [Except.toOption]

theorem planFor_of_key (keyed : Version.key version = .ok key) : r.planFor version = r.planned.get? key := by
  simp [planFor, keyed, Except.toOption]

theorem planFor_plan_self (keyed : Version.key version = .ok key) (metadata : TableMetadata) :
    (r.plan version (.ok metadata)).1.planFor version = some metadata := by
  rw [planFor_of_key keyed]
  simp [plan, rememberPlan, keyed, Except.map]

/-- Planning sets the plan of its own version, and no other. -/
theorem planFor_plan (r : Resolver) (version other : Option Version) (answer : Except Fault TableMetadata) :
    (r.plan version answer).1.planFor other = r.planFor other ∨
      ∃ metadata, answer = .ok metadata ∧ other = version ∧
        (r.plan version answer).1.planFor other = some metadata := by
  cases answer with
  | error fault => exact Or.inl rfl
  | ok metadata =>
    cases keyed : Version.key version with
    | error e => simp [plan, rememberPlan, keyed, Except.map]
    | ok key =>
      have replanned : (r.plan version (.ok metadata)).1 = { r with planned := r.planned.insert key metadata } := by
        simp [plan, rememberPlan, keyed, Except.map]
      rw [replanned]
      cases keyed' : Version.key other with
      | error e => simp [planFor, keyed', Except.toOption]
      | ok key' =>
        rw [planFor_of_key keyed', planFor_of_key keyed', OrderedMap.get?_insert]
        split
        · rename_i same
          subst same
          exact Or.inr ⟨metadata, rfl, Fingerprint.eq_of_key keyed' keyed, rfl⟩
        · exact Or.inl rfl

theorem checked_resolver (r : Resolver) (check : PlanCheck) (answer : Except Fault TableMetadata) :
    (r.checked check answer).1 = (r.finishCheck check answer).1 := by
  unfold checked
  split
  · rename_i finished
    rw [finished]
  · rename_i finished
    rw [finished]
    dsimp only
    split <;> rfl

/-- Only a scan that has found no plan sets one. -/
theorem planFor_checked (r : Resolver) (check : PlanCheck) (answer : Except Fault TableMetadata)
    (version : Option Version) : (r.checked check answer).1.planFor version = r.planFor version ∨
      ∃ metadata, answer = .ok metadata ∧ version = check.params.version ∧ check.planned = none ∧
        (r.checked check answer).1.planFor version = some metadata := by
  rw [checked_resolver]
  unfold finishCheck
  cases unplanned : check.planned with
  | none =>
    obtain same | ⟨metadata, answered, own, set⟩ := r.planFor_plan check.params.version version answer
    · exact Or.inl same
    · exact Or.inr ⟨metadata, answered, own, rfl, set⟩
  | some planned =>
    cases answer with
    | error fault => exact Or.inl rfl
    | ok live =>
      dsimp only
      split <;> exact Or.inl rfl

end Resolver

theorem Resolver.checked_ne_metadata (r : Resolver) (check check' : PlanCheck)
    (answer : Except Fault TableMetadata) : (r.checked check answer).2 ≠ .metadata check' := by
  have checks := r.checked_checks check answer
  generalize r.checked check answer = went at checks
  cases checks <;> simp

theorem Resolver.begin_check (r : Resolver) (purpose : ScanPurpose) (table : TableReference)
    (params : ScanParameters) :
    (∃ check, r.beginCheck purpose table params = .ok check ∧ r.begin purpose table params = .metadata check) ∨
      ∀ check, r.begin purpose table params ≠ .metadata check := by
  unfold begin
  split
  · split <;> exact Or.inr (by simp)
  · split
    · rename_i check asked
      exact Or.inl ⟨check, asked, rfl⟩
    · exact Or.inr (by simp)

/-! What the stretches of a call do to the plans of its resolver. -/

namespace Site

theorem read_resolver (s : Site) (m : Moment) (path : String) : (s.read m path).1.resolver = s.resolver := by
  unfold read
  split
  · rfl
  · split <;> rfl

theorem register_planned (s : Site) (m : Moment) (table : TableReference) (tableKey : String)
    (actions : List FileAction) (outcome : Except ScanError ResolvedScan) :
    (s.register m table tableKey actions outcome).1.resolver.planned = s.resolver.planned ∧
      ∀ check, (s.register m table tableKey actions outcome).2 ≠ .metadata check := by
  have registers := s.register_registers m table tableKey actions outcome
  generalize s.register m table tableKey actions outcome = went at registers
  cases registers <;> exact ⟨rfl, by simp⟩

theorem signed_planned (s : Site) (m : Moment) (registration : Registration) (answer : Signature) :
    (s.signed m registration answer).1.resolver.planned = s.resolver.planned ∧
      ∀ check, (s.signed m registration answer).2 ≠ .metadata check := by
  have signs := s.signed_signs m registration answer
  generalize s.signed m registration answer = went at signs
  cases signs <;> exact ⟨rfl, by simp⟩

end Site

namespace Session

/-- Whether an event begins a scan of a version of a table. -/
def Event.Scans (e : Event) (call i : Nat) (version : Option Version) : Prop :=
  ∃ purpose table params, e.action = .scan call i purpose table params ∧ params.version = version

/-- What a call that goes on does about plans. -/
inductive Consults (s : Session) (e : Event) (call i : Nat) (r : Resolver) : Site × Stage → Prop
  | asks (purpose : ScanPurpose) (table : TableReference) (params : ScanParameters) (check : PlanCheck)
      (taken : e.action = .scan call i purpose table params) (asked : r.beginCheck purpose table params = .ok check) :
      Consults s e call i r (s.site r, .scan (.metadata check))
  | answered (check : PlanCheck) (answer : Except Fault TableMetadata)
      (taken : e.action = .reply call (.metadata answer))
      (waiting : s.calls.get? call = some ⟨i, .scan (.metadata check)⟩) :
      Consults s e call i r (s.site (r.checked check answer).1, .scan (r.checked check answer).2)
  | other (went : Site × Stage) (planned : went.1.resolver.planned = r.planned)
      (asksNot : ∀ check, went.2 ≠ .scan (.metadata check)) : Consults s e call i r went

variable {s : Session} {e : Event} {call i : Nat} {r : Resolver} {went : Site × Stage}

theorem Goes.consults (goes : Goes s e call i r went) : Consults s e call i r went := by
  -- What is registered is remembered with the tables and the batches, beside the plans.
  have registered (m : Moment) (table : TableReference) (tableKey : String) (actions : List FileAction)
      (outcome : Except ScanError ResolvedScan) :
      Consults s e call i r (((s.site r).register m table tableKey actions outcome).map id .scan) := by
    obtain ⟨planned, asksNot⟩ := (s.site r).register_planned m table tableKey actions outcome
    exact .other _ planned fun check asks => asksNot check (Stage.scan.inj asks)
  cases goes with
  | scans purpose table params taken =>
    obtain ⟨check, asked, begun⟩ | asksNot := r.begin_check purpose table params
    · rw [begun]
      exact .asks purpose table params check taken asked
    · exact .other _ rfl fun check asks => asksNot check (Stage.scan.inj asks)
  | scansBatch table actions start last =>
    unfold Site.resolveBatch
    cases Fingerprint.range start last with
    | error e => exact .other _ rfl (by simp)
    | ok fingerprint => exact registered ..
  | reads path => exact .other _ (congrArg Resolver.planned ((s.site r).read_resolver e.moment path)) (by simp)
  | resumes reply taken stage before known resumed =>
    unfold Site.resume at resumed
    split at resumed
    · cases resumed
      exact .answered _ _ taken before
    · rename_i listing answer
      cases resumed
      cases answer with
      | error fault => exact .other _ rfl (by simp [Site.listed])
      | ok actions => exact registered ..
    · rename_i listing answer
      cases resumed
      cases answer with
      | error fault => exact .other _ rfl (by simp [Site.changesListed])
      | ok changes => exact registered ..
    · rename_i registration answer
      cases resumed
      obtain ⟨planned, asksNot⟩ := (s.site r).signed_planned e.moment registration answer
      exact .other _ planned fun check asks => asksNot check (Stage.scan.inj asks)
    · cases resumed
      exact .other _ rfl (by simp)
    · cases resumed
      exact .other _ rfl (by simp)
    · cases resumed
      exact .other _ rfl (by simp)
    · cases resumed

/-- Whether an event sets the plan of a version: the resolver plans it, or the
metadata come for a scan that has found no plan. -/
inductive SetsPlan (s : Session) (e : Event) (i : Nat) (version : Option Version) (metadata : TableMetadata) : Prop
  | plans (taken : e.action = .plan i version (.ok metadata))
  | scans (call : Nat) (check : PlanCheck) (taken : e.action = .reply call (.metadata (.ok metadata)))
      (waiting : s.calls.get? call = some ⟨i, .scan (.metadata check)⟩) (same : check.params.version = version)
      (unplanned : check.planned = none)

theorem planFor_set {s' : Session} {r' : Resolver} {version : Option Version} (known : s.resolvers[i]? = some r)
    (resolvers : s'.resolvers = s.resolvers.set i r') (j : Nat) :
    s'.planFor j version = if j = i then r'.planFor version else s.planFor j version := by
  rw [planFor, resolvers, getElem?_set_known known]
  split <;> rfl

theorem planFor_known {version : Option Version} (known : s.resolvers[i]? = some r) :
    s.planFor i version = r.planFor version := by
  rw [planFor, known]
  rfl

theorem step_planFor (s : Session) (e : Event) (i : Nat) (version : Option Version) :
    (s.step e).planFor i version = s.planFor i version ∨ ∃ metadata, SetsPlan s e i version metadata ∧
      (s.step e).planFor i version = some metadata := by
  -- A resolver that is replaced by one with the same plan keeps it.
  have same {s' : Session} {j : Nat} {r r' : Resolver} (known : s.resolvers[j]? = some r)
      (resolvers : s'.resolvers = s.resolvers.set j r') (planned : r'.planFor version = r.planFor version) :
      s'.planFor i version = s.planFor i version := by
    rw [planFor_set known resolvers]
    split
    · rename_i own
      subst own
      rw [planned, ← planFor_known known]
    · rfl
  obtain unmoved | move := step_moves s e
  · exact Or.inl (by rw [unmoved])
  · generalize s.step e = s' at move
    cases move with
    | enters settings location mark issuer taken =>
      refine Or.inl ?_
      unfold planFor
      rw [List.getElem?_append]
      split
      · rfl
      · rename_i beyond
        rw [List.getElem?_eq_none (Nat.not_lt.mp beyond)]
        cases entered : [Resolver.new settings location mark issuer][i - s.resolvers.length]? with
        | none => rfl
        | some r =>
          obtain rfl := List.mem_singleton.mp (List.mem_of_getElem? entered)
          cases keyed : Version.key version <;> simp [Resolver.planFor, keyed, Except.toOption, Resolver.new]
    | plans j version' answer r taken known =>
      obtain kept | ⟨metadata, rfl, rfl, set⟩ := r.planFor_plan version' version answer
      · exact Or.inl (same known rfl kept)
      · rw [planFor_set known rfl]
        split
        · rename_i own
          subst own
          exact Or.inr ⟨metadata, .plans taken, set⟩
        · exact Or.inl rfl
    | goes call j r went goes =>
      have known := goes.known
      cases goes.consults with
      | asks => exact Or.inl (same known rfl rfl)
      | other _ planned => exact Or.inl (same known rfl (by rw [Resolver.planFor, planned, Resolver.planFor]))
      | answered check answer taken waiting =>
        obtain kept | ⟨metadata, rfl, own, unplanned, set⟩ := r.planFor_checked check answer version
        · exact Or.inl (same known rfl kept)
        · rw [planFor_set known rfl]
          split
          · rename_i here
            subst here
            exact Or.inr ⟨metadata, .scans call check taken waiting own.symm unplanned, set⟩
          · exact Or.inl rfl
    | closes j r taken known => exact Or.inl (same known rfl rfl)
    | sweeps => exact Or.inl rfl

/-- A call that waits for metadata goes on with the answer. -/
theorem answered_step {check : PlanCheck} {answer : Except Fault TableMetadata}
    (waiting : s.calls.get? call = some ⟨i, .scan (.metadata check)⟩) (known : s.resolvers[i]? = some r)
    (taken : e.action = .reply call (.metadata answer)) :
    s.step e = s.record call i (s.site (r.checked check answer).1, .scan (r.checked check answer).2) := by
  have goes : Goes s e call i r (s.site (r.checked check answer).1, .scan (r.checked check answer).2) :=
    .resumes _ taken _ waiting known rfl
  exact goes.step_eq

/-- An event that sets a plan does so if the selector has a key. -/
theorem SetsPlan.planFor_eq {version : Option Version} {metadata : TableMetadata} {key : String}
    (sets : SetsPlan s e i version metadata) (known : s.resolvers[i]? = some r)
    (keyed : Version.key version = .ok key) : (s.step e).planFor i version = some metadata := by
  cases sets with
  | plans taken =>
    have stepped : (s.step e).resolvers = s.resolvers.set i (r.plan version (.ok metadata)).1 := by
      simp only [step, taken, known]
    rw [planFor_set known stepped, if_pos rfl, Resolver.planFor_plan_self keyed]
  | scans call check taken waiting same unplanned =>
    subst same
    rw [answered_step waiting known taken, planFor_set known rfl, if_pos rfl]
    show (r.checked check (.ok metadata)).1.planFor check.params.version = some metadata
    rw [Resolver.checked_resolver, Resolver.finishCheck, unplanned, Resolver.planFor_plan_self keyed]

/-- A call that waits for metadata has waited before, or has just begun and found the plan. -/
theorem waiting_cases {check : PlanCheck}
    (waiting : (s.step e).calls.get? call = some ⟨i, .scan (.metadata check)⟩) :
    s.calls.get? call = some ⟨i, .scan (.metadata check)⟩ ∨
      e.Scans call i check.params.version ∧ s.planFor i check.params.version = check.planned := by
  obtain same | move := step_moves s e
  · rw [same] at waiting
    exact Or.inl waiting
  · generalize s.step e = s' at move waiting
    cases move with
    | enters | plans | closes | sweeps => exact Or.inl waiting
    | goes other j r went goes =>
      rw [record_calls] at waiting
      split at waiting
      · rename_i own
        subst own
        have known := goes.known
        cases goes.consults with
        | asks purpose table params check' taken asked =>
          cases waiting
          unfold Resolver.beginCheck at asked
          split at asked
          · rename_i keyed
            cases asked
            refine Or.inr ⟨⟨purpose, table, params, taken, rfl⟩, ?_⟩
            rw [planFor_known known, Resolver.planFor_of_key keyed]
          · cases asked
        | answered check' answer =>
          have stage := congrArg Call.stage (Option.some.inj waiting)
          exact absurd (Stage.scan.inj stage) (r.checked_ne_metadata check' check answer)
        | other _ planned asksNot => exact absurd (congrArg Call.stage (Option.some.inj waiting)) (asksNot check)
      · exact Or.inl waiting

/-- Whether an event lets a resolver plan, or begin a scan. -/
def Event.Asks (e : Event) (i : Nat) : Prop :=
  (∃ version answer, e.action = .plan i version answer) ∨ ∃ call version, e.Scans call i version

/-- Whether a resolver is asked for one thing after the other: it neither plans nor
begins a scan while one of its scans waits for metadata. -/
def OneByOne (settings : CacheSettings) (i : Nat) : List Event → Prop
  | [] => True
  | e :: earlier => OneByOne settings i earlier ∧ (e.Asks i → ∀ call check,
      (run settings earlier).calls.get? call ≠ some ⟨i, .scan (.metadata check)⟩)

variable {settings : CacheSettings} {events later : List Event} {version : Option Version} {planned : TableMetadata}
  {check : PlanCheck}

/-- A scan that waits for metadata has found what it is checked against when it began. -/
theorem waiting_run (waiting : (run settings events).calls.get? call = some ⟨i, .scan (.metadata check)⟩) :
    Once settings events fun s e =>
      e.Scans call i check.params.version ∧ s.planFor i check.params.version = check.planned := by
  induction events with
  | nil => cases waiting
  | cons e earlier ih =>
    obtain before | begun := waiting_cases waiting
    · exact (ih before).later e
    · exact .now begun

/-- When a resolver is asked for one thing after the other, a scan that waits for
metadata is the only one, and what it has found is still the plan. -/
theorem OneByOne.waiting (ordered : OneByOne settings i events)
    (waiting : (run settings events).calls.get? call = some ⟨i, .scan (.metadata check)⟩) :
    (run settings events).planFor i check.params.version = check.planned ∧
      ∀ other check', (run settings events).calls.get? other = some ⟨i, .scan (.metadata check')⟩ → other = call := by
  induction events generalizing call check with
  | nil => cases waiting
  | cons e earlier ih =>
    obtain ⟨ordered, alone⟩ := ordered
    have unasked {other : Nat} {check' : PlanCheck}
        (before : (run settings earlier).calls.get? other = some ⟨i, .scan (.metadata check')⟩) : ¬ e.Asks i :=
      fun asks => alone asks other check' before
    obtain before | ⟨begun, found⟩ := waiting_cases waiting
    · obtain ⟨kept, only⟩ := ih ordered before
      refine ⟨?_, fun other check' waiting' => ?_⟩
      · rw [run]
        obtain same | ⟨metadata, sets, -⟩ := step_planFor (run settings earlier) e i check.params.version
        · exact same.trans kept
        cases sets with
        | plans taken => exact absurd (Or.inl ⟨_, _, taken⟩) (unasked before)
        | scans other check' taken before' =>
          -- The only scan that waits would have gone on with the answer.
          cases only other check' before'
          obtain ⟨r, known, -⟩ := (kept_run settings earlier).1.calls call i _ before
          rw [run, answered_step before' known taken, record_calls, if_pos rfl] at waiting
          have stage := congrArg Call.stage (Option.some.inj waiting)
          exact absurd (Stage.scan.inj stage) (r.checked_ne_metadata check' check (.ok metadata))
      · obtain before' | ⟨begun, -⟩ := waiting_cases waiting'
        · exact only other check' before'
        · exact absurd (Or.inr ⟨_, _, begun⟩) (unasked before)
    · have asks : e.Asks i := Or.inr ⟨call, _, begun⟩
      obtain ⟨purpose, table, params, taken, -⟩ := begun
      refine ⟨?_, fun other check' waiting' => ?_⟩
      · rw [run]
        obtain same | ⟨metadata, sets, -⟩ := step_planFor (run settings earlier) e i check.params.version
        · exact same.trans found
        cases sets with
        | plans planned => cases taken.symm.trans planned
        | scans other check' answered => cases taken.symm.trans answered
      · obtain before' | ⟨⟨_, _, _, taken', -⟩, -⟩ := waiting_cases waiting'
        · exact absurd asks (unasked before')
        · cases taken.symm.trans taken'
          rfl

/-- The plan of a version stays until the resolver plans that version again. -/
theorem plan_stays (ordered : OneByOne settings i (later ++ events))
    (before : (run settings events).planFor i version = some planned)
    (unplanned : ∀ e ∈ later, ∀ metadata, e.action ≠ .plan i version (.ok metadata)) :
    (run settings (later ++ events)).planFor i version = some planned := by
  induction later with
  | nil => exact before
  | cons e later ih =>
    obtain ⟨ordered, -⟩ := ordered
    have kept := ih ordered fun e member => unplanned e (List.mem_cons_of_mem _ member)
    rw [List.cons_append, run]
    obtain same | ⟨metadata, sets, -⟩ := step_planFor (run settings (later ++ events)) e i version
    · exact same.trans kept
    cases sets with
    | plans taken => exact absurd taken (unplanned e List.mem_cons_self metadata)
    | scans call check taken waiting same found =>
      subst same
      cases kept.symm.trans ((ordered.waiting waiting).1.trans found)

end Session
end SharedTables
