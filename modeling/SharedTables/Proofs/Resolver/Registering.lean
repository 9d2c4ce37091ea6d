import SharedTables.Proofs.Cache.Filling
import SharedTables.Proofs.Cache.Holders
import SharedTables.Resolver.Scanning

/-! How the links of a scan get into the cache of its resolver. The batch is
registered and recorded by one stretch, at the latest when a service has signed;
a stretch that ends otherwise leaves the cache as it was. -/
namespace SharedTables.Site

variable {s : Site} {m : Moment} {cache : Cache}

theorem linkCache?_eq_some_iff :
    s.linkCache? = some cache ↔ s.resolver.settings.linkCache = true ∧ s.cache = some cache :=
  Option.ite_none_right_eq_some

/-- How the links of listed files can get into the cache. -/
inductive Registers (s : Site) (m : Moment) (table : TableReference) (tableKey : String) (actions : List FileAction)
    (outcome : Except ScanError ResolvedScan) : Site × ScanProgress → Prop
  | uncached (plain : s.linkCache? = none) :
      Registers s m table tableKey actions outcome
        (⟨s.resolver.rememberTable tableKey table, s.cache⟩, .done outcome)
  | refuses (cache : Cache) (caching : s.linkCache? = some cache) (fault : Fault)
      (incomplete : ¬ cache.Complete m tableKey actions s.resolver.settings.population)
      (reason : m.epoch = .error fault ∨ s.resolver.issuer = none) :
      Registers s m table tableKey actions outcome
        (⟨s.resolver.rememberTable tableKey table, some cache⟩, .done (.error (.collaborator fault)))
  | asks (cache : Cache) (caching : s.linkCache? = some cache) (service : Issuer) (fresh : Links)
      (incomplete : ¬ cache.Complete m tableKey actions s.resolver.settings.population) :
      Registers s m table tableKey actions outcome
        (⟨s.resolver.rememberTable tableKey table, some cache⟩,
          .sign ⟨service, .ofListing fresh tableKey table actions, outcome⟩)
  | joins (cache : Cache) (caching : s.linkCache? = some cache) (links : Links)
      (complete : cache.Complete m tableKey actions s.resolver.settings.population)
      (listed : ∀ fileId link, links.get? fileId = some link →
        ∃ action ∈ actions, action.id = fileId ∧ action.link? = some link) :
      Registers s m table tableKey actions outcome
        (⟨(s.resolver.rememberTable tableKey table).rememberBatch tableKey,
          some (cache.register m.rest tableKey table (actions.map (·.id)) links s.resolver.issuer).1⟩, .done outcome)
  /-- The clock fails after the batch has been registered. -/
  | breaks (cache : Cache) (caching : s.linkCache? = some cache) (links : Links)
      (complete : cache.Complete m tableKey actions s.resolver.settings.population)
      (listed : ∀ fileId link, links.get? fileId = some link →
        ∃ action ∈ actions, action.id = fileId ∧ action.link? = some link)
      (eager : s.resolver.settings.population = .eager) (fault : Fault) (clock : m.again = .error fault) :
      Registers s m table tableKey actions outcome
        (⟨s.resolver.rememberTable tableKey table,
          some (cache.register m.rest tableKey table (actions.map (·.id)) links s.resolver.issuer).1⟩,
          .done (.error (.collaborator fault)))

theorem register_registers (s : Site) (m : Moment) (table : TableReference) (tableKey : String)
    (actions : List FileAction) (outcome : Except ScanError ResolvedScan) :
    Registers s m table tableKey actions outcome (s.register m table tableKey actions outcome) := by
  have same : linkCache? { s with resolver := s.resolver.rememberTable tableKey table } = s.linkCache? := rfl
  unfold register
  dsimp only
  rw [same]
  cases caching : s.linkCache? with
  | none => exact .uncached caching
  | some cache =>
    have fills := cache.populate_fills m s.resolver.settings.population tableKey table actions s.resolver.issuer
    simp only [Resolver.rememberTable]
    generalize cache.populate m s.resolver.settings.population tableKey table actions s.resolver.issuer = went at fills
    cases fills with
    | refuses fault incomplete reason => exact .refuses cache caching fault incomplete reason
    | asks service fresh incomplete => exact .asks cache caching service fresh incomplete
    | registers links complete listed => exact .joins cache caching links complete listed
    | breaks links complete listed eager fault clock =>
      exact .breaks cache caching links complete listed eager fault clock

/-- How a scan can end after a service has answered. -/
inductive Signs (s : Site) (m : Moment) (registration : Registration) : Signature → Site × ScanProgress → Prop
  | uncached (answer : Signature) (plain : s.cache = none) :
      Signs s m registration answer (s, .done registration.outcome)
  | refuses (answer : Signature) (fault : Fault) (unsigned : ∀ signed, answer ≠ .ok (some signed)) :
      Signs s m registration answer (s, .done (.error (.collaborator fault)))
  | joins (cache : Cache) (there : s.cache = some cache) (signed links : Links)
      (given : ∀ fileId, links.get? fileId = (signed.get? fileId).or (registration.filling.listed.get? fileId)) :
      Signs s m registration (.ok (some signed))
        (⟨s.resolver.rememberBatch registration.filling.tableKey,
          some (cache.register m registration.filling.tableKey registration.filling.table
            registration.filling.fileIds links (some registration.issuer)).1⟩, .done registration.outcome)
  /-- The clock fails after the batch has been registered. -/
  | breaks (cache : Cache) (there : s.cache = some cache) (signed links : Links)
      (given : ∀ fileId, links.get? fileId = (signed.get? fileId).or (registration.filling.listed.get? fileId))
      (fault : Fault) (clock : m.epoch = .error fault) :
      Signs s m registration (.ok (some signed))
        (⟨s.resolver, some (cache.register m registration.filling.tableKey registration.filling.table
          registration.filling.fileIds links (some registration.issuer)).1⟩, .done (.error (.collaborator fault)))

theorem signed_signs (s : Site) (m : Moment) (registration : Registration) (answer : Signature) :
    Signs s m registration answer (s.signed m registration answer) := by
  unfold signed
  cases there : s.cache with
  | none => exact .uncached answer there
  | some cache =>
    have filled := cache.populated_filled m registration.issuer registration.filling answer
    dsimp only
    generalize cache.populated m registration.issuer registration.filling answer = went at filled
    cases filled with
    | refuses _ fault unsigned =>
      have same : s = { s with cache := some cache } := there ▸ rfl
      rw [same]
      exact .refuses answer fault unsigned
    | registers signed links given =>
      cases ended : (cache.register m registration.filling.tableKey registration.filling.table
          registration.filling.fileIds links (some registration.issuer)).2 with
      | ok => exact .joins cache there signed links given
      | error fault => exact .breaks cache there signed links given fault (Cache.register_fault ended)

end SharedTables.Site
