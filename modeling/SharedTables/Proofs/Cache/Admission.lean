import SharedTables.Proofs.Cache.Contents
import SharedTables.Proofs.Cache.Holders

/-! What may stand in a cache under a key. An operation lets no other links and
no other tables in than those it brings itself, and a read hands out a link from
under its own key, or has the batch of that key signed for its own table. -/
namespace SharedTables.Cache

variable {c : Cache} {m : Moment} {mayLink : EntryKey → Link → Prop} {mayName : String → TableReference → Prop}

/-- The table that the batch of a key is refreshed for. -/
def tableOf (c : Cache) (key : String) : Option TableReference := (c.batches.get? key).map (·.table)

theorem tableOf_eq_standing (c : Cache) : c.tableOf key = (c.standing key).map (·.table) := by
  simp [tableOf, standing, Function.comp_def]

theorem tableOf_release {tableKey : String} : (c.release tableKey).tableOf key = c.tableOf key := by
  by_cases same : key = tableKey
  · subst same
    cases found : c.batches.get? key <;> simp [tableOf, found]
  · simp [tableOf, same]

theorem tableOf_of_sweep {table : TableReference} (left : (c.sweep m).1.tableOf key = some table) :
    c.tableOf key = some table := by
  obtain same | ⟨gone, -⟩ := get?_sweep_released c m key
  · rwa [tableOf, same] at left
  · simp [tableOf, gone] at left

/-- A batch keeps the table for which it was registered first. -/
theorem tableOf_register {tableKey : String} {table : TableReference} {fileIds : List String} {links : Links}
    {refresher : Option Issuer} : (c.register m tableKey table fileIds links refresher).1.tableOf key =
      if key = tableKey then some ((c.tableOf tableKey).getD table) else c.tableOf key := by
  by_cases same : key = tableKey
  · subst same
    cases found : c.batches.get? key <;> simp [tableOf, found, Batch.attach, newBatch]
  · simp [tableOf, same]

/-- Whether every link, and the table of every batch, may stand under its key. -/
structure Admits (c : Cache) (mayLink : EntryKey → Link → Prop) (mayName : String → TableReference → Prop) : Prop where
  links : ∀ key link, c.entries.get? key = some link → mayLink key link
  tables : ∀ key table, c.tableOf key = some table → mayName key table

theorem admits_new (settings : CacheSettings) : (new settings).Admits mayLink mayName :=
  ⟨fun _ _ found => (nomatch found), fun _ _ found => (nomatch found)⟩

namespace Admits

theorem imp {mayLink' : EntryKey → Link → Prop} {mayName' : String → TableReference → Prop}
    (admits : c.Admits mayLink mayName) (links : ∀ key link, mayLink key link → mayLink' key link)
    (names : ∀ key table, mayName key table → mayName' key table) : c.Admits mayLink' mayName' :=
  ⟨fun key link found => links _ _ (admits.links key link found),
    fun key table found => names _ _ (admits.tables key table found)⟩

theorem releases (admits : c.Admits mayLink mayName) (keys : List String) :
    (keys.foldl release c).Admits mayLink mayName := by
  induction keys generalizing c with
  | nil => exact admits
  | cons tableKey keys ih =>
    exact ih ⟨admits.links, fun key table found => admits.tables key table (tableOf_release ▸ found)⟩

theorem sweep (admits : c.Admits mayLink mayName) : (c.sweep m).1.Admits mayLink mayName where
  links key link found := admits.links key link (OrderedMap.get?_of_subset (fun _ => (sweep_part c m).mem) found)
  tables key table found := admits.tables key table (tableOf_of_sweep found)

/-- What has been stocked under a key came in with the stock, or was there before. -/
theorem of_capped_stocked {stock : Stock} {room : Nat} (admits : c.Admits mayLink mayName)
    (own : ∀ fileId link, stock.links.get? fileId = some link → mayLink ⟨stock.tableKey, fileId⟩ link)
    (left : (capped m room (c.stocked stock)).get? key = some link) : mayLink key link := by
  have stocked := get?_of_capped left
  rw [get?_stocked] at stocked
  split at stocked
  · rename_i same
    obtain ⟨_, fileId⟩ := key
    cases same
    obtain brought | ⟨-, old⟩ := Option.or_eq_some_iff.mp stocked
    · exact own fileId link brought
    · exact admits.links _ link old
  · exact admits.links key link stocked

/-- A batch that is registered brings its links, and its table if the key had no batch. -/
theorem register {tableKey : String} {table : TableReference} {links : Links} (admits : c.Admits mayLink mayName)
    (own : ∀ fileId link, links.get? fileId = some link → mayLink ⟨tableKey, fileId⟩ link)
    (named : mayName tableKey table) (fileIds : List String) (refresher : Option Issuer) :
    (c.register m tableKey table fileIds links refresher).1.Admits mayLink mayName where
  links key link found := by
    rw [register_entries] at found
    split at found
    · exact admits.links key link found
    · exact admits.of_capped_stocked own found
  tables key table' found := by
    rw [tableOf_register] at found
    split at found
    · rename_i same
      subst same
      cases old : c.tableOf key with
      | none =>
        rw [old] at found
        cases found
        exact named
      | some table =>
        rw [old] at found
        cases found
        exact admits.tables key table old
    · exact admits.tables key table' found

theorem look (admits : c.Admits mayLink mayName) (l : Lookup) : (c.look m l).1.Admits mayLink mayName where
  links key link found := by
    rw [look_entries] at found
    split at found
    · exact admits.links key link (OrderedMap.get?_touch.symm.trans found)
    · exact admits.links key link found
  tables key table found := by
    rw [tableOf_eq_standing, standing_look, ← tableOf_eq_standing] at found
    exact admits.tables key table found

/-- A refresh brings the links that a service has signed. -/
theorem finishRefresh {r : Refresh} {answer : Signature} (admits : c.Admits mayLink mayName)
    (own : ∀ signed, answer = .ok (some signed) →
      ∀ fileId link, signed.get? fileId = some link → mayLink ⟨r.key.tableKey, fileId⟩ link) :
    (c.finishRefresh m r answer).1.Admits mayLink mayName where
  links key link found := by
    rw [finishRefresh_entries] at found
    cases answer with
    | error fault => exact admits.links key link found
    | ok answer =>
      refine admits.of_capped_stocked (fun fileId link brought => ?_) found
      cases answer with
      | none => cases brought
      | some signed => exact own signed rfl fileId link brought
  tables key table found := by
    rw [tableOf_eq_standing, standing_finishRefresh, ← tableOf_eq_standing] at found
    exact admits.tables key table found

end Admits

/-- How far a read can have come after a stretch of it. -/
inductive Looked (c : Cache) (key : EntryKey) : ReadProgress → Prop
  | found (link : Link) (there : c.entries.get? key = some link) : Looked c key (.done (.ok link))
  | failed (fault : Fault) : Looked c key (.done (.error fault))
  | waits (limit : Seconds) (l : Lookup) (own : l.key = key) : Looked c key (.wait limit l)
  | signs (issuer : Issuer) (refresh : Refresh) (own : refresh.key = key)
      (named : c.tableOf key.tableKey = some refresh.table) : Looked c key (.sign issuer refresh)

private theorem afterRefresh_looked {batch : Batch} : Looked c key (.done (c.afterRefresh key batch).2) := by
  unfold afterRefresh
  split
  · exact .failed _
  · exact .failed _
  · exact .found _ ‹_›

private theorem lookInBatch_looked {l : Lookup} {batch : Batch}
    (registered : c.batches.get? l.key.tableKey = some batch) : Looked c l.key (c.lookInBatch m l batch).2 := by
  unfold lookInBatch
  split
  · exact .failed _
  · split
    · exact afterRefresh_looked
    · split
      · unfold awaitRefresh
        dsimp only
        split
        · exact .failed _
        · exact .waits _ _ rfl
      · unfold refreshBatch
        cases c.issuerFor batch with
        | none => exact .failed _
        | some issuer => exact .signs issuer _ rfl (by simp [tableOf, registered, takeLease])

theorem look_looked (c : Cache) (m : Moment) (l : Lookup) : Looked c l.key (c.look m l).2 := by
  unfold look
  cases fresh : c.freshLink? m l.key with
  | error fault => exact .failed fault
  | ok found =>
    cases found with
    | some link =>
      unfold freshLink? at fresh
      split at fresh
      · cases fresh
      · rename_i stored there
        split at fresh
        · cases fresh
        · obtain ⟨-, rfl⟩ : _ ∧ stored = link := by simpa using fresh
          exact .found stored there
    | none =>
      cases registered : c.batches.get? l.key.tableKey with
      | none => exact .failed _
      | some batch => exact lookInBatch_looked registered

/-- A refresh that succeeds hands out a link that is now there. -/
theorem finishRefresh_found {r : Refresh} {answer : Signature} (ended : (c.finishRefresh m r answer).2 = .ok link) :
    (c.finishRefresh m r answer).1.entries.get? r.key = some link := by
  cases answer with
  | error fault => cases fault <;> cases ended
  | ok links =>
    simp only [Cache.finishRefresh, refreshed] at ended ⊢
    generalize store _ m r.key.tableKey (links.getD .empty) (some r.key) = stored at ended ⊢
    obtain ⟨after, fault | _⟩ := stored
    · cases ended
    · dsimp only at ended ⊢
      cases there : after.entries.get? r.key with
      | none =>
        rw [there] at ended
        cases ended
      | some link' =>
        rw [there] at ended
        cases ended
        exact there

end SharedTables.Cache
