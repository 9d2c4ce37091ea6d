import SharedTables.Proofs.Cache.Batches

/-! Where the links in a cache come from. Storing puts new links in and evicts
some; it never makes up a link or brings back an old one. -/
namespace SharedTables.Cache

variable {c : Cache} {m : Moment} {tableKey : String} {links : Links} {key : EntryKey} {link : Link}

private theorem get?_foldl_push {fileId : String} (pairs : List (String × Link))
    (distinct : (pairs.map Prod.fst).Nodup) (entries : OrderedMap EntryKey Link) :
    (pairs.foldl (fun entries p => entries.push ⟨tableKey, p.1⟩ p.2) entries).get? ⟨tableKey, fileId⟩ =
      (pairs.lookup fileId).or (entries.get? ⟨tableKey, fileId⟩) := by
  induction pairs generalizing entries with
  | nil => rfl
  | cons p rest ih =>
    obtain ⟨id, link⟩ := p
    obtain ⟨absent, distinct⟩ := List.nodup_cons.mp distinct
    rw [List.foldl_cons, ih distinct, OrderedMap.get?_push]
    by_cases same : fileId = id
    · subst same
      have unlisted : rest.lookup fileId = none := by
        refine List.lookup_eq_none_iff.mpr fun p member => ?_
        have differ : fileId ≠ p.1 := fun same => absent (same ▸ List.mem_map.mpr ⟨p, member, rfl⟩)
        simpa using differ
      simp [unlisted]
    · have differ : (fileId == id) = false := by simp [same]
      simp [List.lookup_cons, differ, same]

/-- New links replace those under the same key. -/
theorem get?_putLinks {entries : OrderedMap EntryKey Link} {fileId : String} :
    (putLinks tableKey links entries).get? ⟨tableKey, fileId⟩ =
      (links.get? fileId).or (entries.get? ⟨tableKey, fileId⟩) :=
  get?_foldl_push links.entries links.nodup entries

private theorem enforceCapacity_part :
    ∀ entry ∈ (c.enforceCapacity m).1.entries.entries, entry ∈ c.entries.entries := by
  unfold enforceCapacity
  split
  · exact fun entry member => member
  · cases m.epoch with
    | error fault => exact fun entry member => member
    | ok now =>
      intro entry member
      exact (withoutExpired_sublist now _ _).mem (List.mem_of_mem_drop member)

/-- A link that is there after storing is one of those stored, or there was no
new one for its file and it was there before. -/
theorem store_source (c : Cache) {requested : Option EntryKey}
    (found : (c.store m key.tableKey links requested).1.entries.get? key = some link) :
    (links.get? key.fileId).or (c.entries.get? key) = some link := by
  have kept := OrderedMap.get?_of_subset enforceCapacity_part found
  cases requested with
  | none => exact get?_putLinks.symm.trans kept
  | some _ => exact get?_putLinks.symm.trans (OrderedMap.get?_touch.symm.trans kept)

/-- Storing succeeds whenever the clock can be read. -/
theorem store_succeeds (c : Cache) (tableKey : String) (links : Links) (requested : Option EntryKey)
    (clock : m.epoch = .ok now) : (c.store m tableKey links requested).2 = .ok () := by
  simp only [store, enforceCapacity_result, clock]
  exact ite_self _

private theorem enforceCapacity_fault (failed : (c.enforceCapacity m).2 = .error fault) :
    m.epoch = .error fault := by
  rw [enforceCapacity_result] at failed
  split at failed
  · cases failed
  · cases clock : m.epoch with
    | error fault' => simpa [clock, Except.map] using failed
    | ok now => simp [clock, Except.map] at failed

/-- Storing fails only where the clock does. -/
theorem store_fault {requested : Option EntryKey}
    (failed : (c.store m tableKey links requested).2 = .error fault) : m.epoch = .error fault :=
  enforceCapacity_fault failed

/-- The end of a refresh that has been answered: the links are stored, and the
result is whatever link is then there for the file. -/
theorem finishRefresh_result (c : Cache) (r : Refresh) (answer : Option Links) (clock : m.epoch = .ok now) :
    (∀ link, (c.finishRefresh m r (.ok answer)).1.entries.get? r.key = some link →
      ((answer.getD .empty).get? r.key.fileId).or (c.entries.get? r.key) = some link) ∧
    (c.finishRefresh m r (.ok answer)).2 =
      match (c.finishRefresh m r (.ok answer)).1.entries.get? r.key with
      | some link => .ok link
      | none => .error (.credential (.notSignedInBatch r.key.fileId r.key.tableKey)) := by
  let counted := { c with stats := { c.stats with refreshes := c.stats.refreshes + 1 } }
  have succeeds := store_succeeds counted r.key.tableKey (answer.getD .empty) (some r.key) clock
  have source (link : Link)
      (left : (counted.store m r.key.tableKey (answer.getD .empty) (some r.key)).1.entries.get? r.key =
        some link) :
      ((answer.getD .empty).get? r.key.fileId).or (c.entries.get? r.key) = some link :=
    store_source counted left
  simp only [finishRefresh, refreshed]
  rcases stored : counted.store m r.key.tableKey (answer.getD .empty) (some r.key) with ⟨after, result⟩
  simp only [stored] at succeeds source
  subst succeeds
  exact ⟨source, rfl⟩

end SharedTables.Cache
