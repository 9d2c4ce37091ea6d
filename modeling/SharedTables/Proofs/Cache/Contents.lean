import SharedTables.Proofs.Cache.Entries

/-! What each operation does to the links of a cache, their order included. New
links are stocked first, and only then is the overflow evicted; any other
operation at most touches one link or takes some out. -/
namespace SharedTables.Cache

variable {c : Cache} {m : Moment} {tableKey : String} {links : Links} {key : EntryKey} {link : Link}

/-- Links to be stored under a table key, perhaps for a read that requested one of them. -/
structure Stock where
  tableKey : String
  links : Links
  requested : Option EntryKey

/-- The entries of a cache and new links, before any are evicted. A requested
entry has become the most recently used one. -/
def stocked (c : Cache) (s : Stock) : OrderedMap EntryKey Link :=
  match s.requested with
  | some key => (putLinks s.tableKey s.links c.entries).touch key
  | none => putLinks s.tableKey s.links c.entries

/-- The entries that the capacity of a cache leaves. A clock that fails leaves all. -/
def capped (m : Moment) (room : Nat) (stored : OrderedMap EntryKey Link) : OrderedMap EntryKey Link :=
  if stored.size ≤ room then stored
  else
    match m.epoch with
    | .ok now => evictOverflow now room stored
    | .error _ => stored

/-- Whether a read finds a link that is fresh. -/
def findsFresh (c : Cache) (m : Moment) (key : EntryKey) : Bool :=
  match c.freshLink? m key with
  | .ok (some _) => true
  | _ => false

theorem capped_part (m : Moment) (room : Nat) (stored : OrderedMap EntryKey Link) :
    (capped m room stored).entries.Sublist stored.entries := by
  unfold capped
  split
  · exact List.Sublist.refl _
  · cases m.epoch with
    | error fault => exact List.Sublist.refl _
    | ok now => exact (List.drop_sublist _ _).trans (withoutExpired_sublist _ _ _)

/-- A link that is left was there. -/
theorem get?_of_capped {room : Nat} {stored : OrderedMap EntryKey Link}
    (left : (capped m room stored).get? key = some link) : stored.get? key = some link :=
  OrderedMap.get?_of_subset (fun _ => (capped_part m room stored).mem) left

private theorem enforceCapacity_entries :
    (c.enforceCapacity m).1.entries = capped m c.settings.maxEntries c.entries := by
  unfold enforceCapacity capped
  split
  · rfl
  · cases m.epoch <;> rfl

theorem store_entries (c : Cache) (m : Moment) (tableKey : String) (links : Links)
    (requested : Option EntryKey) : (c.store m tableKey links requested).1.entries =
      capped m c.settings.maxEntries (c.stocked ⟨tableKey, links, requested⟩) := by
  cases requested <;> exact enforceCapacity_entries

/-- Links of another table are not touched. -/
private theorem get?_foldl_push_other (pairs : List (String × Link)) (other : key.tableKey ≠ tableKey)
    (entries : OrderedMap EntryKey Link) :
    (pairs.foldl (fun entries p => entries.push ⟨tableKey, p.1⟩ p.2) entries).get? key = entries.get? key := by
  induction pairs generalizing entries with
  | nil => rfl
  | cons p rest ih =>
    have differ : key ≠ ⟨tableKey, p.1⟩ := fun same => other (congrArg EntryKey.tableKey same)
    rw [List.foldl_cons, ih, OrderedMap.get?_push, if_neg differ]

/-- New links replace those under the same key. -/
@[simp] theorem get?_stocked {s : Stock} : (c.stocked s).get? key =
    if key.tableKey = s.tableKey then (s.links.get? key.fileId).or (c.entries.get? key)
    else c.entries.get? key := by
  obtain ⟨tableKey, links, requested⟩ := s
  have put : (putLinks tableKey links c.entries).get? key =
      if key.tableKey = tableKey then (links.get? key.fileId).or (c.entries.get? key)
      else c.entries.get? key := by
    split
    · rename_i same
      subst same
      exact get?_putLinks
    · rename_i other
      exact get?_foldl_push_other _ other _
  cases requested with
  | none => exact put
  | some requested => exact OrderedMap.get?_touch.trans put

theorem register_entries (c : Cache) (m : Moment) (tableKey : String) (table : TableReference)
    (fileIds : List String) (links : Links) (refresher : Option Issuer) :
    (c.register m tableKey table fileIds links refresher).1.entries =
      if links.entries.isEmpty then c.entries
      else capped m c.settings.maxEntries (c.stocked ⟨tableKey, links, none⟩) := by
  unfold register
  split
  · rfl
  · exact store_entries ..

theorem finishRefresh_entries (c : Cache) (m : Moment) (r : Refresh) (answer : Signature) :
    (c.finishRefresh m r answer).1.entries =
      match answer with
      | .error _ => c.entries
      | .ok links => capped m c.settings.maxEntries
          (c.stocked ⟨r.key.tableKey, links.getD .empty, some r.key⟩) := by
  cases answer with
  | error fault => rfl
  | ok links =>
    let counted := { c with stats := { c.stats with refreshes := c.stats.refreshes + 1 } }
    have stored := store_entries counted m r.key.tableKey (links.getD .empty) (some r.key)
    simp only [finishRefresh, refreshed]
    rcases went : counted.store m r.key.tableKey (links.getD .empty) (some r.key) with ⟨after, _ | _⟩ <;>
      rw [went] at stored <;> exact stored

private theorem lookInBatch_entries {l : Lookup} {batch : Batch} :
    (c.lookInBatch m l batch).1.entries = c.entries := by
  unfold lookInBatch
  split
  · rfl
  · split
    · simp only [afterRefresh]
      cases batch.lastFault with
      | some fault => rfl
      | none => cases c.entries.get? l.key <;> rfl
    · cases batch.lease.filter (Lease.inForce · m.monotonic) with
      | some lease => rfl
      | none =>
        simp only [refreshBatch]
        cases c.issuerFor batch <;> rfl

/-- A read that finds its link fresh touches it, and no other read changes the links. -/
theorem look_entries (c : Cache) (m : Moment) (l : Lookup) : (c.look m l).1.entries =
    if c.findsFresh m l.key then c.entries.touch l.key else c.entries := by
  unfold look findsFresh
  cases c.freshLink? m l.key with
  | error fault => rfl
  | ok found =>
    cases found with
    | some link => rfl
    | none =>
      cases c.batches.get? l.key.tableKey with
      | none => rfl
      | some batch => exact lookInBatch_entries

theorem sweep_part (c : Cache) (m : Moment) : (c.sweep m).1.entries.entries.Sublist c.entries.entries := by
  unfold sweep
  cases m.epoch with
  | error fault => exact List.Sublist.refl _
  | ok now => exact List.filter_sublist

end SharedTables.Cache
