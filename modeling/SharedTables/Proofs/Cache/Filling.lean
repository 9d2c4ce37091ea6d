import SharedTables.Cache.Filling
import SharedTables.Proofs.Cache.Entries

/-! How the batch of a scan is filled. Nothing is registered before each listed
file of an eager scan has a link; then the batch is registered with links that
came with the listing or that a service has just signed. -/
namespace SharedTables.Cache

variable {c : Cache} {m : Moment} {tableKey fileId : String} {table : TableReference} {actions : List FileAction}
  {issuer : Option Issuer} {population : Population} {fresh links : Links} {link : Link}

/-- Whether each listed file has a link already, a fresh one in the cache or one
that came with the listing. A lazy scan needs none. -/
def Complete (c : Cache) (m : Moment) (tableKey : String) (actions : List FileAction) : Population → Prop
  | .lazy => True
  | .eager => ∃ now, m.epoch = .ok now ∧ ∀ action ∈ actions,
      (∃ link, c.entries.get? ⟨tableKey, action.id⟩ = some link ∧ c.isFresh link now = true) ∨
        ∃ listed ∈ actions, listed.id = action.id ∧ listed.link? ≠ none

/-- Only an eager scan can lack links. -/
theorem eager_of_incomplete (incomplete : ¬ c.Complete m tableKey actions population) : population = .eager := by
  cases population with
  | eager => rfl
  | lazy => exact absurd trivial incomplete

/-- The files of which the fresh links are known. -/
theorem mem_freshLinks {fileIds : List String} (known : c.freshLinks m tableKey fileIds = .ok fresh) :
    ∃ now, m.epoch = .ok now ∧ ∀ fileId ∈ fileIds, fresh.contains fileId = true ↔
      ∃ link, c.entries.get? ⟨tableKey, fileId⟩ = some link ∧ c.isFresh link now = true := by
  unfold freshLinks at known
  cases clock : m.epoch with
  | error fault => simp [clock] at known
  | ok now =>
    simp only [clock, Except.ok.injEq] at known
    subst known
    refine ⟨now, rfl, fun fileId wanted => ?_⟩
    rw [OrderedMap.contains, decide_eq_true_iff, OrderedMap.mem_keys_ofList]
    constructor
    · intro member
      obtain ⟨⟨_, link⟩, found, rfl⟩ := List.mem_map.mp member
      obtain ⟨other, -, found⟩ := List.mem_filterMap.mp found
      split at found
      · rename_i link' there
        split at found
        · cases found
          exact ⟨link, there, ‹_›⟩
        · cases found
      · cases found
    · rintro ⟨link, there, unexpired⟩
      exact List.mem_map.mpr ⟨(fileId, link), List.mem_filterMap.mpr ⟨fileId, wanted, by simp [there, unexpired]⟩, rfl⟩

namespace Filling

/-- A link that a scan brings came with the listing, for the same file. -/
theorem ofListing_source (found : (ofListing fresh tableKey table actions).listed.get? fileId = some link) :
    ∃ action ∈ actions, action.id = fileId ∧ action.link? = some link := by
  have member := OrderedMap.mem_of_get?_ofList found
  obtain ⟨action, listed, kept⟩ := List.mem_filterMap.mp member
  split at kept
  · obtain ⟨link', given, same⟩ := Option.map_eq_some_iff.mp kept
    cases same
    exact ⟨action, listed, rfl, given⟩
  · cases kept

/-- The files that came with a link are those of which no fresh link is known. -/
theorem contains_listed {wanted : List String} : (OrderedMap.ofList (actions.filterMap fun action =>
      if wanted.contains action.id then action.link?.map (action.id, ·) else none)).contains fileId = true ↔
    wanted.contains fileId = true ∧ ∃ listed ∈ actions, listed.id = fileId ∧ listed.link? ≠ none := by
  rw [OrderedMap.contains, decide_eq_true_iff, OrderedMap.mem_keys_ofList, List.map_filterMap]
  simp only [List.mem_filterMap, Option.map_eq_some_iff, Option.ite_none_right_eq_some]
  constructor
  · rintro ⟨action, listed, _, ⟨lacking, link, given, rfl⟩, rfl⟩
    exact ⟨lacking, action, listed, rfl, by simp [given]⟩
  · rintro ⟨lacking, action, listed, rfl, given⟩
    obtain ⟨link, given⟩ := Option.ne_none_iff_exists'.mp given
    exact ⟨action, listed, _, ⟨lacking, link, given, rfl⟩, rfl⟩

/-- No file has to be signed exactly if each has a fresh link or one that came with the listing. -/
theorem ofListing_unsigned : (ofListing fresh tableKey table actions).unsigned = [] ↔
    ∀ action ∈ actions, fresh.contains action.id = true ∨
      ∃ listed ∈ actions, listed.id = action.id ∧ listed.link? ≠ none := by
  have missing (fileId : String) : fileId ∈ (actions.map (·.id)).eraseDups.filter (fun id => !fresh.contains id) ↔
      (∃ action ∈ actions, action.id = fileId) ∧ fresh.contains fileId = false := by
    simp [List.mem_eraseDups]
  rw [ofListing, List.filter_eq_nil_iff]
  simp only [Bool.not_eq_true', Bool.not_eq_false, contains_listed]
  simp only [List.contains_iff_mem, missing]
  constructor
  · intro supplied action listed
    by_cases known : fresh.contains action.id = true
    · exact Or.inl known
    · exact Or.inr (supplied action.id ⟨⟨action, listed, rfl⟩, Bool.eq_false_iff.mpr known⟩).2
  · rintro supplied fileId ⟨⟨action, listed, rfl⟩, unknown⟩
    obtain known | given := supplied action listed
    · exact absurd (known.symm.trans unknown) (by decide)
    · exact ⟨⟨⟨action, listed, rfl⟩, unknown⟩, given⟩

end Filling

/-- How the first stretch of filling can go. -/
inductive Fills (c : Cache) (m : Moment) (tableKey : String) (table : TableReference) (actions : List FileAction)
    (issuer : Option Issuer) (population : Population) : Cache × FillProgress → Prop
  | refuses (fault : Fault) (incomplete : ¬ c.Complete m tableKey actions population)
      (reason : m.epoch = .error fault ∨ issuer = none) :
      Fills c m tableKey table actions issuer population (c, .done (.error fault))
  | asks (service : Issuer) (fresh : Links) (incomplete : ¬ c.Complete m tableKey actions population) :
      Fills c m tableKey table actions issuer population (c, .sign service (.ofListing fresh tableKey table actions))
  | registers (links : Links) (complete : c.Complete m tableKey actions population)
      (listed : ∀ fileId link, links.get? fileId = some link →
        ∃ action ∈ actions, action.id = fileId ∧ action.link? = some link) :
      Fills c m tableKey table actions issuer population
        ((c.register m.rest tableKey table (actions.map (·.id)) links issuer).1, .done (.ok ()))
  /-- The clock fails when it is read once more, after the batch has been registered. -/
  | breaks (links : Links) (complete : c.Complete m tableKey actions population)
      (listed : ∀ fileId link, links.get? fileId = some link →
        ∃ action ∈ actions, action.id = fileId ∧ action.link? = some link)
      (eager : population = .eager) (fault : Fault) (clock : m.again = .error fault) :
      Fills c m tableKey table actions issuer population
        ((c.register m.rest tableKey table (actions.map (·.id)) links issuer).1, .done (.error fault))

/-- An eager scan is complete exactly if no file has to be signed. -/
theorem complete_iff (known : c.freshLinks m tableKey (actions.map (·.id)) = .ok fresh) :
    c.Complete m tableKey actions .eager ↔ (Filling.ofListing fresh tableKey table actions).unsigned = [] := by
  obtain ⟨now, clock, found⟩ := mem_freshLinks known
  have wanted (action : FileAction) (listed : action ∈ actions) := found action.id (List.mem_map_of_mem listed)
  rw [Filling.ofListing_unsigned]
  constructor
  · rintro ⟨now', clock', supplied⟩ action listed
    cases clock.symm.trans clock'
    exact (supplied action listed).imp_left (wanted action listed).mpr
  · intro supplied
    exact ⟨now, clock, fun action listed => (supplied action listed).imp_left (wanted action listed).mp⟩

/-- Registering fails only where the clock does. -/
theorem register_fault {fileIds : List String} {fault : Fault}
    (failed : (c.register m tableKey table fileIds links issuer).2 = .error fault) : m.epoch = .error fault := by
  unfold register at failed
  split at failed
  · cases failed
  · exact store_fault failed

/-- Where the clock can be read, registering succeeds. -/
theorem register_succeeds (fileIds : List String) (readable : ∃ now, m.epoch = .ok now) :
    (c.register m tableKey table fileIds links issuer).2 = .ok () := by
  obtain ⟨now, clock⟩ := readable
  unfold register
  split
  · rfl
  · exact store_succeeds _ _ _ _ clock

private theorem Fills.of_register {issuer : Option Issuer} (complete : c.Complete m tableKey actions .eager)
    (listed : ∀ fileId link, links.get? fileId = some link →
      ∃ action ∈ actions, action.id = fileId ∧ action.link? = some link) :
    Fills c m tableKey table actions issuer .eager
      ((c.register m.rest tableKey table (actions.map (·.id)) links issuer).1,
        .done (c.register m.rest tableKey table (actions.map (·.id)) links issuer).2) := by
  cases ended : (c.register m.rest tableKey table (actions.map (·.id)) links issuer).2 with
  | ok => exact .registers links complete listed
  | error fault => exact .breaks links complete listed rfl fault (register_fault ended)

/-- The first stretch of filling registers the batch exactly if it is complete. -/
theorem populate_fills (c : Cache) (m : Moment) (population : Population) (tableKey : String)
    (table : TableReference) (actions : List FileAction) (issuer : Option Issuer) :
    Fills c m tableKey table actions issuer population (c.populate m population tableKey table actions issuer) := by
  cases population with
  | lazy =>
    have unlinked : ∀ fileId link, (OrderedMap.empty : Links).get? fileId = some link →
        ∃ action ∈ actions, action.id = fileId ∧ action.link? = some link := fun _ _ found => by cases found
    -- Without links the clock is not read.
    exact .registers .empty trivial unlinked
  | eager =>
    simp only [populate]
    cases known : c.freshLinks m tableKey (actions.map (·.id)) with
    | error fault =>
      cases clock : m.epoch with
      | error reason =>
        have same : reason = fault := by simpa [freshLinks, clock] using known
        exact .refuses fault (by simp [Complete, clock]) (Or.inl (same ▸ clock))
      | ok now => simp [freshLinks, clock] at known
    | ok fresh =>
      have complete : c.Complete m tableKey actions .eager ↔
          (Filling.ofListing fresh tableKey table actions).unsigned = [] := complete_iff known
      simp only [fill, registerFilling]
      split
      · rename_i signed
        exact .of_register (complete.mpr signed) fun _ _ found => Filling.ofListing_source found
      · rename_i unsigned
        exact .refuses _ (fun all => unsigned (complete.mp all)) (Or.inr rfl)
      · rename_i unsigned
        exact .asks _ fresh fun all => unsigned (complete.mp all)

/-- How filling can end after a service has answered. -/
inductive Filled (c : Cache) (m : Moment) (issuer : Issuer) (filling : Filling) :
    Signature → Cache × Except Fault Unit → Prop
  | refuses (answer : Signature) (fault : Fault) (unsigned : ∀ signed, answer ≠ .ok (some signed)) :
      Filled c m issuer filling answer (c, .error fault)
  | registers (signed links : Links) (given : ∀ fileId, links.get? fileId =
        (signed.get? fileId).or (filling.listed.get? fileId)) :
      Filled c m issuer filling (.ok (some signed))
        (c.register m filling.tableKey filling.table filling.fileIds links (some issuer))

/-- After a service has answered, the batch is registered exactly if files were signed. -/
theorem populated_filled (c : Cache) (m : Moment) (issuer : Issuer) (filling : Filling) (answer : Signature) :
    Filled c m issuer filling answer (c.populated m issuer filling answer) := by
  unfold populated
  split
  · exact .refuses _ _ (by simp)
  · exact .refuses _ _ (by simp)
  · exact .refuses _ _ (by simp)
  · rename_i signed
    exact .registers signed _ fun fileId => OrderedMap.get?_insertAll signed filling.listed

end SharedTables.Cache
