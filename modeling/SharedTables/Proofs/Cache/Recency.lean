import Mathlib.Data.List.Basic
import SharedTables.Proofs.Cache.Eviction
import SharedTables.Proofs.Cache.Leases

/-! The links of a cache stand in the order in which they were last touched, and
by this order they are evicted when there are too many. A link is touched when it
is stored, when a read finds it fresh, and when it was requested by a read whose
refresh is answered. -/
namespace SharedTables.Cache

/-- Whether one link was last touched before another; a log has the latest touch first. -/
def TouchedBefore (log : List EntryKey) (key key' : EntryKey) : Prop := log.idxOf key' < log.idxOf key

/-- Entries in the order of their last touches. -/
structure InTouchOrder (entries : OrderedMap EntryKey Link) (log : List EntryKey) : Prop where
  touched : ∀ key ∈ entries.keys, key ∈ log
  ordered : entries.keys.Pairwise (TouchedBefore log)

/-- The links that are touched as a stock is stored, latest first. -/
def Stock.touches (s : Stock) : List EntryKey :=
  s.requested.toList ++ (s.links.keys.map fun fileId => ⟨s.tableKey, fileId⟩).reverse

variable {entries : OrderedMap EntryKey Link} {log : List EntryKey} {key : EntryKey}

theorem InTouchOrder.part {entries' : OrderedMap EntryKey Link} (order : InTouchOrder entries log)
    (part : entries'.entries.Sublist entries.entries) : InTouchOrder entries' log := by
  have keys : entries'.keys.Sublist entries.keys := part.map _
  exact ⟨fun key held => order.touched key (keys.mem held), order.ordered.sublist keys⟩

/-- A touch leaves the order of all other links. -/
theorem touchedBefore_cons {first second : EntryKey} (before : TouchedBefore log first second)
    (differ : first ≠ key) (differ' : second ≠ key) : TouchedBefore (key :: log) first second := by
  unfold TouchedBefore at *
  rw [List.idxOf_cons_ne _ differ.symm, List.idxOf_cons_ne _ differ'.symm]
  exact Nat.succ_lt_succ before

theorem keys_erase : (entries.erase key).keys = entries.keys.filter (· ≠ key) := by
  simp [OrderedMap.erase, OrderedMap.filter, OrderedMap.keys, List.filter_map, Function.comp_def]

theorem keys_push {link : Link} : (entries.push key link).keys = entries.keys.filter (· ≠ key) ++ [key] := by
  rw [← keys_erase]
  simp [OrderedMap.push, OrderedMap.append, OrderedMap.keys]

/-- A link that is stored becomes the last one. -/
theorem InTouchOrder.push (order : InTouchOrder entries log) (link : Link) :
    InTouchOrder (entries.push key link) (key :: log) := by
  constructor
  · intro held member
    rw [keys_push] at member
    obtain other | last := List.mem_append.mp member
    · exact List.mem_cons_of_mem _ (order.touched held (List.mem_filter.mp other).1)
    · exact List.mem_singleton.mp last ▸ List.mem_cons_self
  · rw [keys_push, List.pairwise_append]
    have differ (other : EntryKey) (member : other ∈ entries.keys.filter (· ≠ key)) : other ≠ key := by
      simpa using (List.mem_filter.mp member).2
    refine ⟨?_, List.pairwise_singleton _ _, ?_⟩
    · refine (order.ordered.sublist List.filter_sublist).imp_of_mem fun member member' before => ?_
      exact touchedBefore_cons before (differ _ member) (differ _ member')
    · intro other member last isLast
      obtain rfl := List.mem_singleton.mp isLast
      unfold TouchedBefore
      rw [List.idxOf_cons_self, List.idxOf_cons_ne _ (differ other member).symm]
      exact Nat.succ_pos _

/-- A link that is touched becomes the last one; where there is none nothing changes. -/
theorem InTouchOrder.touch (order : InTouchOrder entries log) :
    InTouchOrder (entries.touch key) (key :: log) := by
  unfold OrderedMap.touch
  cases found : entries.get? key with
  | some link => exact order.push link
  | none =>
    have differ (other : EntryKey) (member : other ∈ entries.keys) : other ≠ key := by
      rintro rfl
      obtain ⟨link, held⟩ := OrderedMap.mem_keys_iff.mp member
      rw [found] at held
      cases held
    refine ⟨fun other member => List.mem_cons_of_mem _ (order.touched other member), ?_⟩
    exact order.ordered.imp_of_mem fun member member' before =>
      touchedBefore_cons before (differ _ member) (differ _ member')

private theorem InTouchOrder.foldl_push {tableKey : String} (pairs : List (String × Link))
    (order : InTouchOrder entries log) :
    InTouchOrder (pairs.foldl (fun entries p => entries.push ⟨tableKey, p.1⟩ p.2) entries)
      ((pairs.map fun p => ⟨tableKey, p.1⟩).reverse ++ log) := by
  induction pairs generalizing entries log with
  | nil => exact order
  | cons p rest ih => simpa using ih (order.push p.2)

/-- New links come last, in their own order, and a requested one after them. -/
theorem InTouchOrder.stocked {c : Cache} (order : InTouchOrder c.entries log) (s : Stock) :
    InTouchOrder (c.stocked s) (s.touches ++ log) := by
  obtain ⟨tableKey, links, requested⟩ := s
  have put : InTouchOrder (putLinks tableKey links c.entries)
      ((links.keys.map fun fileId => ⟨tableKey, fileId⟩).reverse ++ log) := by
    have pushed : InTouchOrder (putLinks tableKey links c.entries)
        ((links.entries.map fun p => ⟨tableKey, p.1⟩).reverse ++ log) :=
      InTouchOrder.foldl_push links.entries order
    rwa [OrderedMap.keys, List.map_map]
  cases requested with
  | none => exact put
  | some key => exact put.touch

namespace Traffic

/-- What an event stores: links that come with a scan, or those that a service has signed. -/
def stocks (t : Traffic) (e : Event) : Option Stock :=
  match e.call with
  | .register tableKey _ _ links _ => if links.entries.isEmpty then none else some ⟨tableKey, links, none⟩
  | .answer read (.ok links) =>
    match t.reads[read]? with
    | some (.signing call) => some ⟨call.refresh.key.tableKey, links.getD .empty, some call.refresh.key⟩
    | _ => none
  | _ => none

/-- The file that is looked up at an event. -/
def looksUp (t : Traffic) (e : Event) : Option EntryKey :=
  match e.call with
  | .get key => some key
  | .wake read =>
    match t.reads[read]? with
    | some (.waiting l) => some l.key
    | _ => none
  | _ => none

/-- The link that a read returns at an event because it is fresh. -/
def hit (t : Traffic) (e : Event) : Option EntryKey := (t.looksUp e).filter (t.cache.findsFresh e.moment)

/-- The links that an event touches, latest first. -/
def touches (t : Traffic) (e : Event) : List EntryKey :=
  match t.stocks e with
  | some s => s.touches
  | none => (t.hit e).toList

/-- The links that a history touches, latest first. -/
def touchLog (settings : CacheSettings) : List Event → List EntryKey
  | [] => []
  | e :: earlier => (run settings earlier).touches e ++ touchLog settings earlier

/-- Links are stocked as they come with a scan, or when a service answers a read. -/
theorem stocks_cases {t : Traffic} {e : Event} {s : Stock} (stored : t.stocks e = some s) :
    (∃ tableKey table fileIds links refresher, e.call = .register tableKey table fileIds links refresher ∧
        links.entries.isEmpty = false ∧ s = ⟨tableKey, links, none⟩) ∨
      ∃ read links call, e.call = .answer read (.ok links) ∧ t.Signing read call ∧
        s = ⟨call.refresh.key.tableKey, links.getD .empty, some call.refresh.key⟩ := by
  obtain ⟨m, call⟩ := e
  cases call with
  | register tableKey table fileIds links refresher =>
    cases linked : links.entries.isEmpty with
    | true => simp [stocks, linked] at stored
    | false =>
      simp only [stocks, linked, Bool.false_eq_true, ↓reduceIte, Option.some.injEq] at stored
      exact Or.inl ⟨tableKey, table, fileIds, links, refresher, rfl, linked, stored.symm⟩
  | answer read signature =>
    cases signature with
    | error fault => simp [stocks] at stored
    | ok links =>
      simp only [stocks] at stored
      split at stored
      · rename_i call signing
        exact Or.inr ⟨read, links, call, rfl, signing, (Option.some.inj stored).symm⟩
      · cases stored
  | release | get | wake | sweep | shutdown => simp [stocks] at stored

/-- Storing stocks new links and evicts the overflow. -/
theorem step_stocks {t : Traffic} {e : Event} {s : Stock} (stored : t.stocks e = some s) :
    (t.step e).cache.entries = capped e.moment t.cache.settings.maxEntries (t.cache.stocked s) := by
  rcases stocks_cases stored with
    ⟨tableKey, table, fileIds, links, refresher, called, linked, rfl⟩ | ⟨read, links, call, called, signing, rfl⟩
  · simp only [step, called, register_entries, linked, Bool.false_eq_true, ↓reduceIte]
  · simp only [step, called, signing, answer, finishRefresh_entries]

private theorem look_touches {t : Traffic} {m : Moment} {read : Nat} {l : Lookup} :
    (t.look m read l).cache.entries =
      if t.cache.findsFresh m l.key then t.cache.entries.touch l.key else t.cache.entries := by
  rw [look_cache, look_entries]

/-- An event that stores nothing touches a link that a read finds fresh, or it at most takes links out. -/
theorem step_unstocked {t : Traffic} {e : Event} (unstored : t.stocks e = none) :
    (∃ key, t.hit e = some key ∧ (t.step e).cache.entries = t.cache.entries.touch key) ∨
      t.hit e = none ∧ (t.step e).cache.entries.entries.Sublist t.cache.entries.entries := by
  have looked {m : Moment} {key : EntryKey} {after : OrderedMap EntryKey Link}
      (went : after = if t.cache.findsFresh m key then t.cache.entries.touch key else t.cache.entries) :
      (∃ key', (some key).filter (t.cache.findsFresh m) = some key' ∧ after = t.cache.entries.touch key') ∨
        (some key).filter (t.cache.findsFresh m) = none ∧ after.entries.Sublist t.cache.entries.entries := by
    cases fresh : t.cache.findsFresh m key with
    | true => exact Or.inl ⟨key, by simp [Option.filter, fresh], by simp [went, fresh]⟩
    | false => exact Or.inr ⟨by simp [Option.filter, fresh], by simp [went, fresh]⟩
  obtain ⟨m, call⟩ := e
  cases call with
  | register tableKey table fileIds links refresher =>
    refine Or.inr ⟨rfl, ?_⟩
    simp only [stocks] at unstored
    split at unstored
    · rename_i unlinked
      simp only [step, register_entries, unlinked, ↓reduceIte]
      exact List.Sublist.refl _
    · cases unstored
  | release tableKey => exact Or.inr ⟨rfl, List.Sublist.refl _⟩
  | get key =>
    let begun := t.begin (t.cache.beginLookup m key)
    have went : (begun.look m t.reads.length (t.cache.beginLookup m key)).cache.entries =
        if t.cache.findsFresh m key then t.cache.entries.touch key else t.cache.entries := look_touches
    exact looked went
  | wake read =>
    simp only [hit, looksUp, step]
    cases t.reads[read]? with
    | none => exact Or.inr ⟨rfl, List.Sublist.refl _⟩
    | some stage =>
      cases stage with
      | waiting l => exact looked look_touches
      | signing call => exact Or.inr ⟨rfl, List.Sublist.refl _⟩
      | ended result => exact Or.inr ⟨rfl, List.Sublist.refl _⟩
  | answer read signature =>
    refine Or.inr ⟨rfl, ?_⟩
    simp only [step]
    split
    · rename_i call signing
      cases signature with
      | error fault =>
        simp only [answer, finishRefresh_entries]
        exact List.Sublist.refl _
      | ok links => simp [stocks, signing] at unstored
    · exact List.Sublist.refl _
  | sweep => exact Or.inr ⟨rfl, sweep_part t.cache m⟩
  | shutdown => exact Or.inr ⟨rfl, List.nil_sublist _⟩

end Traffic
end SharedTables.Cache
