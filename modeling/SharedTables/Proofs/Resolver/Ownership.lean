import SharedTables.Proofs.Resolver.Provenance

/-! Which table a file is signed for. Nothing in the key of a batch names a table,
so the scans that share a key share what is signed for any of them; where all
of them are scans of one table, a read only names that table, and the link that
it hands out was listed or signed for it. -/
namespace SharedTables.Session

variable {settings : CacheSettings} {events : List Event} {call i : Nat} {r : Resolver} {key : String}
  {table : TableReference} {link : Link} {file : EntryKey} {cached : Bool} {stage : Stage}

/-- A read goes on, or stays where it is, as events are taken. -/
theorem Reads.step (reads : Reads settings events i file cached stage)
    (before : (run settings events).calls.get? call = some ⟨i, stage⟩) (e : Event) :
    ∃ stage', (run settings (e :: events)).calls.get? call = some ⟨i, stage'⟩ ∧
      Reads settings (e :: events) i file cached stage' := by
  have stays (same : ((run settings events).step e).calls.get? call = (run settings events).calls.get? call) :
      ∃ stage', (run settings (e :: events)).calls.get? call = some ⟨i, stage'⟩ ∧
        Reads settings (e :: events) i file cached stage' :=
    ⟨stage, same.trans before, reads.later e⟩
  obtain same | move := step_moves (run settings events) e
  · exact stays (congrArg (·.calls.get? call) same)
  · generalize stepped : (run settings events).step e = s' at move
    cases move with
    | enters | plans | closes | sweeps => exact stays (congrArg (·.calls.get? call) stepped)
    | goes other j r went goes =>
      by_cases own : call = other
      · subst own
        cases goes with
        | scans _ _ _ _ unused | scansBatch _ _ _ _ _ unused | reads _ _ unused =>
          cases unused.symm.trans before
        | resumes reply taken stage' before' known resumed =>
          cases before'.symm.trans before
          obtain ⟨-, reads⟩ := (legit_run settings events).read_goes_on known before reads taken resumed
          refine ⟨went.2, ?_, reads⟩
          rw [run, stepped, record_calls, if_pos rfl]
      · refine stays ?_
        rw [stepped, record_calls, if_neg own]

/-- Whether a table shares a key: a scan of it has joined the batch of the key or,
where links are not kept in the cache, the resolver has listed it under the key. -/
def Shares (settings : CacheSettings) (events : List Event) (i : Nat) (key : String) (table : TableReference) :
    Bool → Prop
  | true => Joined settings events key table
  | false => ListedBy settings events i key table

theorem Reads.signsFor (reads : Reads settings events i file cached stage) (asked : stage.signsFor? = some table) :
    Shares settings events i file.tableKey table cached := by
  cases reads with
  | refreshes issuer refresh own named =>
    cases asked
    exact named
  | asks issuer direct own named =>
    cases asked
    exact named
  | waits | finds | misses | gets | fails | lacks => cases asked

theorem Reads.found (reads : Reads settings events i file cached stage) (got : stage.link? = some link) :
    ∃ table, Shares settings events i file.tableKey table cached ∧ Provided settings events table file.fileId link := by
  cases reads with
  | finds link table named given | gets link table named given =>
    cases got
    exact ⟨table, named, given⟩
  | waits | refreshes | misses | asks | fails | lacks => cases got

/-- From its beginning on, a read stays with the tables that share the key of its file. -/
theorem reads_run {earlier : List Event} {m : Moment} {path : String} {file : FilePath}
    (known : (run settings earlier).resolvers[i]? = some r) (unused : (run settings earlier).calls.get? call = none)
    (leads : FilePath.decode r.settings.scheme path = .ok file) (later : List Event) :
    let events := later ++ ⟨m, .read call i path⟩ :: earlier
    ∃ stage, (run settings events).calls.get? call = some ⟨i, stage⟩ ∧
      Reads settings events i ⟨file.tableLocation, file.fileId⟩ r.settings.linkCache stage := by
  induction later with
  | nil =>
    have legit := (legit_run settings earlier).later ⟨m, .read call i path⟩
    obtain ⟨-, reads⟩ := legit.begins (m := m) known leads
    refine ⟨_, ?_, reads⟩
    simp only [List.nil_append, run, step, start, unused, known, record_calls, if_pos]
  | cons e later ih =>
    obtain ⟨stage, reached, reads⟩ := ih
    exact reads.step reached e

/-- A read of a file names no tables to services but those of the scans that share
the key of the file, and a link that it returns was listed or signed for one of
them. So where all of these are scans of one table, the read stays with that table. -/
theorem reads_stay_with_the_tables_of_their_key {later earlier : List Event} {m : Moment} {path : String}
    {file : FilePath} {tables : TableReference → Prop} (taken : events = later ++ ⟨m, .read call i path⟩ :: earlier)
    (known : (run settings earlier).resolvers[i]? = some r) (unused : (run settings earlier).calls.get? call = none)
    (leads : FilePath.decode r.settings.scheme path = .ok file)
    (only : ∀ table, Shares settings events i file.tableLocation table r.settings.linkCache → tables table) :
    ∃ stage, (run settings events).calls.get? call = some ⟨i, stage⟩ ∧
      (∀ asked, stage.signsFor? = some asked → tables asked) ∧
      ∀ link, stage.link? = some link → ∃ table, tables table ∧ Provided settings events table file.fileId link := by
  subst taken
  obtain ⟨stage, reached, reads⟩ := reads_run (m := m) known unused leads later
  refine ⟨stage, reached, fun asked signs => only asked (reads.signsFor signs), fun link got => ?_⟩
  obtain ⟨table, shares, given⟩ := reads.found got
  exact ⟨table, only table shares, given⟩

/-- Only the table of a batch of listed files joins a key with it. -/
theorem joined_scanBatch {m : Moment} {other : TableReference} {actions : List FileAction} {start : Int}
    {last : Option Int}
    (joined : Joined settings (⟨m, .scanBatch call i table actions start last⟩ :: events) key other) :
    other = table ∨ Joined settings events key other := by
  obtain ⟨-, ⟨j, listed, lists⟩ | ⟨signed, signs⟩⟩ | joined := once_cons.mp joined
  · cases lists with
    | files _ _ taken | changes _ _ taken => cases taken
    | batch _ _ _ _ _ taken =>
      cases taken
      exact Or.inl rfl
  · cases signs with
    | scan _ _ _ taken | refresh _ _ _ taken | read _ _ _ taken => cases taken
  · exact Or.inr joined

/-- A batch of two resolvers is refreshed for the table of both. -/
theorem shared_file_is_signed_for_its_table :
    let settings : CacheSettings := ⟨none, 0, 10, 10, 60⟩
    let lazy : ResolverSettings := ⟨⟨true, false⟩, true, true, .exact, .lazy, "share"⟩
    let table : TableReference := ⟨"share", "schema", "orders"⟩
    let listed : FileAction := ⟨"part-1", "", none, .empty, none, none, none, none⟩
    let key := "orders_8bd494a0bfba6015afae3116a84cb92ea0eef03e74989ffe96e0b012c63e3741"
    let path := "share:/" ++ key ++ "/part-1/0"
    let signed : Link := ⟨"https://signed.example.com/part-1", 10000⟩
    let now (action : Action) : Event := ⟨.still 0 0, action⟩
    let earlier := [now (.scanBatch 1 1 table [listed] 0 none), now (.scanBatch 0 0 table [listed] 0 none),
      now (.enter lazy "orders" "" (some ⟨"service"⟩)), now (.enter lazy "orders" "" none)]
    let answer := now (.reply 2 (.signature (.ok (some (.ofList [("part-1", signed)])))))
    let events := answer :: now (.read 2 1 path) :: earlier
    ∃ stage, (run settings events).calls.get? 2 = some ⟨1, stage⟩ ∧ stage.link? = some signed ∧
      Provided settings events table "part-1" signed := by
  intro settings lazy table listed key path signed now earlier answer events
  have entered : (run settings earlier).resolvers[1]?.map (·.settings) = some lazy := by decide +kernel
  obtain ⟨r, known, own⟩ := Option.map_eq_some_iff.mp entered
  have leads : FilePath.decode r.settings.scheme path = .ok ⟨key, "part-1", 0⟩ := by
    rw [own]
    decide +kernel
  have only (other : TableReference) (shares : Shares settings events 1 key other r.settings.linkCache) :
      other = table := by
    have joined : Joined settings events key other := by
      rw [own] at shares
      exact shares
    -- Neither the answer nor the read adds a holder, and both scans are of the one table.
    obtain ⟨grown, -⟩ | joined := once_cons.mp joined
    · exact absurd grown (by decide +kernel)
    obtain ⟨grown, -⟩ | joined := once_cons.mp joined
    · exact absurd grown (by decide +kernel)
    obtain same | joined := joined_scanBatch joined
    · exact same
    obtain same | joined := joined_scanBatch joined
    · exact same
    obtain ⟨grown, -⟩ | joined := once_cons.mp joined
    · exact absurd grown (by decide +kernel)
    obtain ⟨grown, -⟩ | ⟨later, e, earlier, split, -⟩ := once_cons.mp joined
    · exact absurd grown (by decide +kernel)
    · simp at split
  have got : ((run settings events).calls.get? 2).bind (·.stage.link?) = some signed := by decide +kernel
  obtain ⟨stage, reached, -, given⟩ := @reads_stay_with_the_tables_of_their_key settings events 2 1 r [answer] earlier
    (.still 0 0) path ⟨key, "part-1", 0⟩ (· = table) rfl known (by decide +kernel) leads only
  rw [reached] at got
  obtain ⟨_, rfl, given⟩ := given signed got
  exact ⟨stage, reached, got, given⟩

/-- Two tables that are resolved alike under one location share a key. A read of
the file that was resolved for the second is signed for the first. -/
theorem file_of_second_table_is_signed_for_first :
    let settings : CacheSettings := ⟨none, 0, 10, 10, 60⟩
    let lazy : ResolverSettings := ⟨⟨true, false⟩, true, true, .exact, .lazy, "share"⟩
    let orders : TableReference := ⟨"share", "schema", "orders"⟩
    let payroll : TableReference := ⟨"share", "schema", "payroll"⟩
    let listed : FileAction := ⟨"part-1", "", none, .empty, none, none, none, none⟩
    let path := "share:/orders_8bd494a0bfba6015afae3116a84cb92ea0eef03e74989ffe96e0b012c63e3741/part-1/0"
    let now (action : Action) : Event := ⟨.still 0 0, action⟩
    let resolved := run settings [now (.scanBatch 1 0 payroll [listed] 0 none),
      now (.scanBatch 0 0 orders [listed] 0 none), now (.enter lazy "orders" "" (some ⟨"service"⟩))]
    let reading := resolved.step (now (.read 2 0 path))
    ∃ ofOrders ofPayroll stage, resolved.scans = [(0, ofPayroll), (0, ofOrders)] ∧ ofPayroll.paths = .ok [path] ∧
      reading.calls.get? 2 = some ⟨0, stage⟩ ∧ stage.signsFor? = some orders ∧ orders ≠ payroll := by
  intro settings lazy orders payroll listed path now resolved reading
  have handed : resolved.scans.map (fun p => (p.1, p.2.paths)) = [(0, .ok [path]), (0, .ok [path])] := by
    decide +kernel
  have asks : (reading.calls.get? 2).map (fun c => (c.resolver, c.stage.signsFor?)) = some (0, some orders) := by
    decide +kernel
  obtain ⟨⟨_, ofPayroll⟩, rest, scans, same, handed⟩ := List.map_eq_cons_iff.mp handed
  obtain ⟨⟨_, ofOrders⟩, _, rfl, same', handed⟩ := List.map_eq_cons_iff.mp handed
  obtain rfl := List.map_eq_nil_iff.mp handed
  obtain ⟨⟨_, stage⟩, reached, signs⟩ := Option.map_eq_some_iff.mp asks
  obtain ⟨rfl, paths⟩ := Prod.mk.inj same
  obtain ⟨rfl, -⟩ := Prod.mk.inj same'
  obtain ⟨rfl, signs⟩ := Prod.mk.inj signs
  exact ⟨ofOrders, ofPayroll, stage, scans, paths, reached, signs, by decide⟩

end SharedTables.Session
