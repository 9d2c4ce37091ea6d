import SharedTables.Proofs.Cache.Capacity

/-! How links come into a cache and leave it. A link that is stored is one more
only where its file had none, and whatever an overflow or a sweep takes out is
counted as evicted; so the links that are held and those that have been evicted
are together the files that were stored where there was no link. -/
namespace SharedTables.Cache

variable {c : Cache} {m : Moment} {tableKey : String} {key : EntryKey}

/-- The links that a cache holds, and those that it has evicted. -/
def turnover (c : Cache) : Nat := c.entries.size + c.stats.evictions

/-- How many files of a stock have no link yet. -/
def newcomers (c : Cache) (s : Stock) : Nat :=
  s.links.keys.countP fun fileId => (c.entries.get? ⟨s.tableKey, fileId⟩).isNone

theorem size_eq_keys_length (entries : OrderedMap EntryKey Link) : entries.size = entries.keys.length := by
  simp [OrderedMap.keys, OrderedMap.size]

/-- A link that is pushed is one more where there was none. -/
theorem size_push {entries : OrderedMap EntryKey Link} {link : Link} :
    (entries.push key link).size = entries.size + if (entries.get? key).isNone then 1 else 0 := by
  rw [size_eq_keys_length, keys_push, List.length_append, List.length_singleton, size_eq_keys_length]
  cases found : entries.get? key with
  | none =>
    have others : entries.keys.filter (· ≠ key) = entries.keys := by
      refine List.filter_eq_self.mpr fun other member => decide_eq_true ?_
      rintro rfl
      obtain ⟨link, held⟩ := OrderedMap.mem_keys_iff.mp member
      cases found.symm.trans held
    rw [others]
    rfl
  | some old =>
    have touched : (entries.touch key).size = entries.size := size_touch
    rw [OrderedMap.touch, found, size_eq_keys_length, keys_push, List.length_append, List.length_singleton,
      size_eq_keys_length] at touched
    exact touched

private theorem size_foldl_push (pairs : List (String × Link)) (distinct : (pairs.map Prod.fst).Nodup)
    (entries : OrderedMap EntryKey Link) :
    (pairs.foldl (fun entries p => entries.push ⟨tableKey, p.1⟩ p.2) entries).size =
      entries.size + (pairs.map Prod.fst).countP fun fileId => (entries.get? ⟨tableKey, fileId⟩).isNone := by
  induction pairs generalizing entries with
  | nil => rfl
  | cons p rest ih =>
    obtain ⟨absent, distinct⟩ := List.nodup_cons.mp distinct
    -- The files of the rest differ from the one that is pushed first, so they are found as before.
    have unmoved : (rest.map Prod.fst).countP
          (fun fileId => ((entries.push ⟨tableKey, p.1⟩ p.2).get? ⟨tableKey, fileId⟩).isNone) =
        (rest.map Prod.fst).countP fun fileId => (entries.get? ⟨tableKey, fileId⟩).isNone := by
      refine List.countP_congr fun fileId member => ?_
      have differ : fileId ≠ p.1 := fun same => absent (same ▸ member)
      simp [differ]
    rw [List.foldl_cons, ih distinct, unmoved, size_push, List.map_cons, List.countP_cons]
    omega

theorem size_stocked (c : Cache) (s : Stock) : (c.stocked s).size = c.entries.size + c.newcomers s := by
  obtain ⟨tableKey, links, requested⟩ := s
  have put : (putLinks tableKey links c.entries).size = c.entries.size + c.newcomers ⟨tableKey, links, requested⟩ :=
    size_foldl_push links.entries links.nodup c.entries
  cases requested with
  | none => exact put
  | some key => exact size_touch.trans put

private theorem enforceCapacity_turnover : (c.enforceCapacity m).1.turnover = c.turnover := by
  unfold enforceCapacity
  split
  · rfl
  · cases m.epoch with
    | error fault => rfl
    | ok now =>
      have part : (evictOverflow now c.settings.maxEntries c.entries).entries.Sublist c.entries.entries :=
        (List.drop_sublist _ _).trans (withoutExpired_sublist _ _ _)
      have fewer := part.length_le
      simp only [turnover, OrderedMap.size]
      omega

/-- Storing lets newcomers in; what it takes out is counted. -/
theorem store_turnover (c : Cache) (m : Moment) (tableKey : String) (links : Links) (requested : Option EntryKey) :
    (c.store m tableKey links requested).1.turnover = c.turnover + c.newcomers ⟨tableKey, links, requested⟩ := by
  have stored := size_stocked c ⟨tableKey, links, requested⟩
  have kept : (c.store m tableKey links requested).1.turnover =
      (c.stocked ⟨tableKey, links, requested⟩).size + c.stats.evictions := by
    cases requested <;> exact enforceCapacity_turnover
  rw [kept, turnover]
  omega

theorem register_turnover (c : Cache) (m : Moment) (tableKey : String) (table : TableReference)
    (fileIds : List String) (links : Links) (refresher : Option Issuer) :
    (c.register m tableKey table fileIds links refresher).1.turnover =
      c.turnover + c.newcomers ⟨tableKey, links, none⟩ := by
  unfold register
  split
  · rename_i unlinked
    have none_new : c.newcomers ⟨tableKey, links, none⟩ = 0 := by
      simp [newcomers, OrderedMap.keys, List.isEmpty_iff.mp unlinked]
    rw [none_new]
    rfl
  · exact store_turnover ..

theorem finishRefresh_turnover (c : Cache) (m : Moment) (r : Refresh) (links : Option Links) :
    (c.finishRefresh m r (.ok links)).1.turnover =
      c.turnover + c.newcomers ⟨r.key.tableKey, links.getD .empty, some r.key⟩ := by
  let counted := { c with stats := { c.stats with refreshes := c.stats.refreshes + 1 } }
  have stored := store_turnover counted m r.key.tableKey (links.getD .empty) (some r.key)
  simp only [finishRefresh, refreshed]
  rcases went : counted.store m r.key.tableKey (links.getD .empty) (some r.key) with ⟨after, _ | _⟩ <;>
    rw [went] at stored <;> exact stored

theorem sweep_turnover (c : Cache) (m : Moment) : (c.sweep m).1.turnover = c.turnover := by
  unfold sweep
  cases m.epoch with
  | error fault => rfl
  | ok now =>
    have fewer : (c.sweepAt now).1.entries.size ≤ c.entries.size := List.length_filter_le ..
    simp only [sweepAt] at fewer
    simp only [turnover, sweepAt]
    omega

end SharedTables.Cache
