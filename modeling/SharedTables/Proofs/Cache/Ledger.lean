import SharedTables.Proofs.Cache.Traffic

/-! What the numbers in a cache stand for. A serial or a token is given out
once, and the generation of a batch counts exactly the refreshes of it that
have ended, of which the batch knows how the last one went. -/
namespace SharedTables.Cache.Traffic

/-- The endings of refreshes of one batch, latest first. -/
def endingsOf (t : Traffic) (tableKey : String) (serial : Nat) : List Ending :=
  t.endings.filter fun e => e.tableKey = tableKey ∧ e.serial = serial

/-- Whether a batch knows how many refreshes of it have ended and how the last one went. -/
def Noted (t : Traffic) (tableKey : String) (batch : Batch) : Prop :=
  batch.generation = (t.endingsOf tableKey batch.serial).length ∧
    batch.lastFault = (t.endingsOf tableKey batch.serial).head?.bind (·.fault)

/-- The numbers in use are below the next one, and batches know their endings. -/
structure Ledger (t : Traffic) : Prop where
  batches : ∀ {key batch}, t.cache.batches.get? key = some batch →
    batch.serial < t.cache.nextNumber ∧ t.Noted key batch
  endings : ∀ e ∈ t.endings, e.serial < t.cache.nextNumber
  calls : ∀ {read call}, t.Signing read call →
    call.refresh.serial < t.cache.nextNumber ∧ call.refresh.token < t.cache.nextNumber

/-- Whether two states of a batch differ neither in its number nor in its endings. -/
def SameEndings (before after : Batch) : Prop :=
  after.serial = before.serial ∧ after.generation = before.generation ∧
    after.lastFault = before.lastFault

theorem ledger_new (settings : CacheSettings) : Ledger (run settings []) where
  batches found := by simp [run, new] at found
  endings e member := by simp [run] at member
  calls signing := by simp [run, Signing] at signing

/-- A batch that is registered anew has the next number, which no ending mentions. -/
theorem endingsOf_next (ledger : Ledger t) : t.endingsOf key t.cache.nextNumber = [] := by
  refine List.filter_eq_nil_iff.mpr fun e member same => ?_
  have below := ledger.endings e member
  simp at same
  omega

/-- While no refresh ends, batches may come and go and be changed otherwise. -/
theorem Ledger.of_no_ending {t t' : Traffic} (ledger : Ledger t) (endings : t'.endings = t.endings)
    (numbers : t.cache.nextNumber ≤ t'.cache.nextNumber)
    (batches : ∀ key batch', t'.cache.batches.get? key = some batch' →
      (∃ batch, t.cache.batches.get? key = some batch ∧ SameEndings batch batch') ∨
        t.cache.nextNumber < t'.cache.nextNumber ∧
          SameEndings (newBatch t.cache.nextNumber batch'.table) batch')
    (calls : ∀ read call, t'.Signing read call →
      call.refresh.serial < t'.cache.nextNumber ∧ call.refresh.token < t'.cache.nextNumber) :
    Ledger t' where
  batches {key batch'} found := by
    obtain ⟨batch, before, serial, generation, fault⟩ | ⟨next, serial, generation, fault⟩ :=
      batches key batch' found
    · obtain ⟨below, noted⟩ := ledger.batches before
      exact ⟨serial ▸ Nat.lt_of_lt_of_le below numbers, by
        simpa [Noted, endingsOf, endings, serial, generation, fault] using noted⟩
    · have none : t'.endingsOf key batch'.serial = [] := by
        rw [serial, endingsOf, endings]
        exact endingsOf_next ledger
      exact ⟨serial ▸ next, by simp [Noted, none, generation, fault, newBatch]⟩
  endings e member := Nat.lt_of_lt_of_le (ledger.endings e (endings ▸ member)) numbers
  calls signing := calls _ _ signing

theorem endingsOf_cons {t t' : Traffic} (endings : t'.endings = e :: t.endings) :
    t'.endingsOf key serial =
      if e.tableKey = key ∧ e.serial = serial then e :: t.endingsOf key serial
      else t.endingsOf key serial := by
  simp [endingsOf, endings, List.filter_cons]

/-- When a refresh ends, the batch that it was of notes the end, if it is
still there. -/
theorem Ledger.of_ending {t t' : Traffic} (ledger : Ledger t)
    (endings : t'.endings = ⟨tableKey, serial, fault⟩ :: t.endings)
    (numbered : serial < t.cache.nextNumber) (numbers : t.cache.nextNumber ≤ t'.cache.nextNumber)
    (batches : ∀ key batch', t'.cache.batches.get? key = some batch' →
      ∃ batch, t.cache.batches.get? key = some batch ∧ batch'.serial = batch.serial ∧
        if key = tableKey ∧ batch.serial = serial then
          batch'.generation = batch.generation + 1 ∧ batch'.lastFault = fault
        else batch'.generation = batch.generation ∧ batch'.lastFault = batch.lastFault)
    (calls : ∀ read call, t'.Signing read call →
      call.refresh.serial < t'.cache.nextNumber ∧ call.refresh.token < t'.cache.nextNumber) :
    Ledger t' where
  batches {key batch'} found := by
    obtain ⟨batch, before, same, change⟩ := batches key batch' found
    obtain ⟨below, generation, lastFault⟩ := ledger.batches before
    refine ⟨same ▸ Nat.lt_of_lt_of_le below numbers, ?_⟩
    by_cases mine : key = tableKey ∧ batch.serial = serial
    · obtain ⟨rfl, rfl⟩ := mine
      simp only [and_self, ↓reduceIte] at change
      simp [Noted, endingsOf_cons endings, same, change, generation]
    · have others : ¬(tableKey = key ∧ serial = batch.serial) := fun ⟨keys, serials⟩ =>
        mine ⟨keys.symm, serials.symm⟩
      simp only [mine, ↓reduceIte] at change
      simp [Noted, endingsOf_cons endings, same, change, others, generation, lastFault]
  endings e member := by
    rw [endings] at member
    obtain rfl | earlier := List.mem_cons.mp member
    · exact Nat.lt_of_lt_of_le numbered numbers
    · exact Nat.lt_of_lt_of_le (ledger.endings e earlier) numbers
  calls signing := calls _ _ signing

/-- No change loses count of the refreshes that have ended. -/
theorem Ledger.changed (ledger : Ledger t) (change : Change t m t') : Ledger t' := by
  cases change with
  | registers tableKey table fileIds links refresher =>
    refine ledger.of_no_ending rfl (by simp) (fun key batch' found => ?_) fun read call signing => ?_
    · simp only [get?_register] at found
      split at found
      · cases before : t.cache.batches.get? tableKey with
        | none =>
          obtain rfl := by simpa [before] using found
          exact Or.inr ⟨by simp, rfl, rfl, rfl⟩
        | some batch =>
          obtain rfl := by simpa [before] using found
          exact Or.inl ⟨batch, by simp_all, rfl, rfl, rfl⟩
      · exact Or.inl ⟨batch', found, rfl, rfl, rfl⟩
    · have numbered := ledger.calls signing
      simp only [register_nextNumber]
      omega
  | releases tableKey =>
    refine ledger.of_no_ending rfl (Nat.le_refl _) (fun key batch' found => Or.inl ?_)
      fun read call signing => ledger.calls signing
    simp only [get?_release] at found
    split at found
    · obtain ⟨batch, before, rfl⟩ := Option.map_eq_some_iff.mp found
      exact ⟨batch, before, rfl, rfl, rfl⟩
    · exact ⟨batch', found, rfl, rfl, rfl⟩
  | sweeps =>
    have numbers := (sweep_keeps t.cache m).2
    refine ledger.of_no_ending rfl (Nat.le_of_eq numbers.symm) (fun key batch' found => Or.inl ?_)
      fun read call signing => ?_
    · obtain same | ⟨gone, -⟩ := get?_sweep t.cache m key
      · exact ⟨batch', same ▸ found, rfl, rfl, rfl⟩
      · simp [gone] at found
    · simpa only [numbers] using ledger.calls signing
  | begins l unseen =>
    exact ledger.of_no_ending rfl (Nat.le_refl _)
      (fun key batch found => Or.inl ⟨batch, found, rfl, rfl, rfl⟩)
      fun read call signing => ledger.calls (Signing.of_begin signing)
  | ends read l c result waiting batches settings nextNumber =>
    refine ledger.of_no_ending rfl (Nat.le_of_eq nextNumber.symm)
      (fun key batch' found => Or.inl ⟨batch', batches ▸ found, rfl, rfl, rfl⟩) fun read call signing => ?_
    simpa only [nextNumber] using ledger.calls (Signing.of_set_quiet (by simp) signing)
  | waits read l batch waiting registered =>
    exact ledger.of_no_ending rfl (Nat.le_refl _)
      (fun key batch' found => Or.inl ⟨batch', found, rfl, rfl, rfl⟩)
      fun read call signing => ledger.calls (Signing.of_set_quiet (by simp) signing)
  | signs read l batch issuer call waiting registered unmoved free started =>
    refine ledger.of_no_ending rfl (Nat.le_succ _) (fun key batch' found => Or.inl ?_)
      fun other call' signing => ?_
    · simp only [get?_takeLease] at found
      split at found
      · obtain ⟨batch, before, rfl⟩ := Option.map_eq_some_iff.mp found
        exact ⟨batch, before, rfl, rfl, rfl⟩
      · exact ⟨batch', found, rfl, rfl, rfl⟩
    · obtain ⟨rfl, new⟩ | old := Signing.of_set signing
      · cases new
        subst started
        exact ⟨Nat.lt_succ_of_lt (ledger.batches registered).1, Nat.lt_succ_self _⟩
      · have numbered := ledger.calls old
        exact ⟨Nat.lt_succ_of_lt numbered.1, Nat.lt_succ_of_lt numbered.2⟩
  | unserved read l batch c fault result waiting registered free batches settings nextNumber =>
    refine ledger.of_ending rfl (ledger.batches registered).1 (nextNumber ▸ Nat.le_succ _)
      (fun key batch' found => ?_) fun other call signing => ?_
    · rw [batches] at found
      split at found
      · rename_i mine
        cases found
        exact ⟨batch, mine ▸ registered, rfl, by simp [mine]⟩
      · rename_i other
        exact ⟨batch', found, rfl, by simp [other]⟩
    · have numbered := ledger.calls (Signing.of_set_quiet (by simp) signing)
      simp only [nextNumber]
      omega
  | answers read call signature signing =>
    have spec := finishRefresh_spec t.cache m call.refresh signature
    have numbered := (ledger.calls signing).1
    have calls (other : Nat) (call' : SignCall)
        (still : (t.answer m read call.refresh signature).Signing other call') :
        call'.refresh.serial < (t.answer m read call.refresh signature).cache.nextNumber ∧
          call'.refresh.token < (t.answer m read call.refresh signature).cache.nextNumber := by
      have numbered := ledger.calls (Signing.of_set_quiet (by simp) still)
      simpa only [answer, spec.2.2] using numbered
    cases outcome : t.cache.outcome? m call.refresh signature with
    | none =>
      simp only [outcome] at spec
      refine ledger.of_no_ending (by simp [answer, outcome]) (Nat.le_of_eq spec.2.2.symm)
        (fun key batch' found => Or.inl ⟨batch', ?_, rfl, rfl, rfl⟩) calls
      rw [← spec.1]
      exact found
    | some fault =>
      simp only [outcome] at spec
      refine ledger.of_ending (by simp only [answer, outcome]; rfl) numbered
        (Nat.le_of_eq spec.2.2.symm) (fun key batch' found => ?_) calls
      have found := (spec.1 key).symm.trans found
      split at found
      · rename_i mine
        obtain ⟨before, registered, rfl⟩ := Option.map_eq_some_iff.mp found
        by_cases same : before.serial = call.refresh.serial
        · exact ⟨before, registered, by simp [Batch.settle, same], by simp [Batch.settle, mine, same]⟩
        · exact ⟨before, registered, by simp [Batch.settle, same], by simp [Batch.settle, same]⟩
      · rename_i other
        exact ⟨batch', found, rfl, by simp [other]⟩

theorem Ledger.shutdown (ledger : Ledger t) : Ledger { t with cache := t.cache.shutdown } :=
  ledger.of_no_ending rfl (Nat.le_refl _) (fun key batch found => by simp [Cache.shutdown] at found)
    fun read call signing => ledger.calls signing

theorem ledger_run (settings : CacheSettings) (calls : List Event) : Ledger (run settings calls) :=
  run_holds Ledger (ledger_new settings) Ledger.changed Ledger.shutdown calls

/-- Numbers are given out one after another. -/
theorem Change.numbers_grow {t t' : Traffic} (change : Change t m t') :
    t.cache.nextNumber ≤ t'.cache.nextNumber := by
  cases change with
  | registers => simp
  | releases | begins | waits => exact Nat.le_refl _
  | sweeps => exact Nat.le_of_eq (sweep_keeps t.cache m).2.symm
  | ends read l c result waiting batches settings nextNumber => exact Nat.le_of_eq nextNumber.symm
  | signs => exact Nat.le_succ _
  | unserved read l batch c fault result waiting registered free batches settings nextNumber =>
    exact nextNumber ▸ Nat.le_succ _
  | answers read call signature =>
    exact Nat.le_of_eq (finishRefresh_spec t.cache m call.refresh signature).2.2.symm

theorem run_numbers_grow (settings : CacheSettings) (later earlier : List Event) :
    (run settings earlier).cache.nextNumber ≤ (run settings (later ++ earlier)).cache.nextNumber :=
  run_keeps (fun t => (run settings earlier).cache.nextNumber ≤ t.cache.nextNumber) (Nat.le_refl _)
    (fun held change => Nat.le_trans held change.numbers_grow) id later

/-- What has ended is never forgotten. -/
theorem Change.endings_grow (change : Change t m t') : ∃ ended, t'.endings = ended ++ t.endings := by
  cases change with
  | registers | releases | sweeps | begins | ends | waits | signs => exact ⟨[], rfl⟩
  | unserved => exact ⟨[_], rfl⟩
  | answers => exact ⟨_, rfl⟩

theorem run_endings_grow (settings : CacheSettings) (later earlier : List Event) :
    ∃ ended, (run settings (later ++ earlier)).endings = ended ++ (run settings earlier).endings := by
  refine run_keeps (fun t => ∃ ended, t.endings = ended ++ (run settings earlier).endings) ⟨[], rfl⟩
    (fun {m t t'} held change => ?_) id later
  obtain ⟨before, same⟩ := held
  obtain ⟨ended, grown⟩ := change.endings_grow
  exact ⟨ended ++ before, by rw [grown, same, List.append_assoc]⟩

end SharedTables.Cache.Traffic
