import SharedTables.Proofs.Cache.Contents
import SharedTables.Proofs.Cache.Traffic

/-! Sweeps. A link is dead once it has expired in a batch that no scan holds and
no read refreshes. A sweep removes the dead links and then the batches of this
kind that are left without a link; what it leaves has nothing more to remove. -/
namespace SharedTables.Cache

variable {c after : Cache} {m : Moment} {now : Int} {removed : Nat}

/-- A link that nobody needs: it has expired, and its batch is released. -/
def Dead (c : Cache) (now : Int) (key : EntryKey) (link : Link) : Prop :=
  link.expiration ≤ now ∧
    ∃ batch, c.batches.get? key.tableKey = some batch ∧ batch.holders = 0 ∧ batch.lease = none

/-- There is a link under a table key. -/
def HasLink (c : Cache) (tableKey : String) : Prop :=
  ∃ fileId link, c.entries.get? ⟨tableKey, fileId⟩ = some link

/-- A cache from which the dead links have been removed, and then the released
batches without a link. -/
structure Swept (c : Cache) (now : Int) (after : Cache) (removed : Nat) : Prop where
  links : ∀ key link, after.entries.get? key = some link ↔
    c.entries.get? key = some link ∧ ¬ c.Dead now key link
  recency : after.entries.entries.Sublist c.entries.entries
  batches : ∀ tableKey batch, after.batches.get? tableKey = some batch ↔
    c.batches.get? tableKey = some batch ∧ (batch.holders = 0 → batch.lease = none → after.HasLink tableKey)
  batch_order : after.batches.entries.Sublist c.batches.entries
  counted : removed + after.entries.size = c.entries.size
  rest : after = { c with
    entries := after.entries
    batches := after.batches
    stats := { c.stats with evictions := c.stats.evictions + removed } }

private theorem isReleased_iff {batch : Batch} :
    Batch.isReleased batch = true ↔ batch.holders = 0 ∧ batch.lease = none := by
  simp [Batch.isReleased]

/-- What a sweep looks for is what is dead. -/
private theorem doomed_iff {key : EntryKey} {link : Link} :
    (c.isReleasedKey key.tableKey && decide (link.expiration ≤ now)) = true ↔ c.Dead now key link := by
  rw [Bool.and_eq_true, decide_eq_true_eq, and_comm, Dead, isReleasedKey]
  cases c.batches.get? key.tableKey with
  | none => simp
  | some batch => simp [isReleased_iff]

private theorem any_key_iff {tableKey : String} :
    (c.entries.keys.any fun key => key.tableKey = tableKey) = true ↔ c.HasLink tableKey := by
  simp only [List.any_eq_true, decide_eq_true_eq, OrderedMap.mem_keys_iff, HasLink]
  constructor
  · rintro ⟨⟨_, fileId⟩, ⟨link, held⟩, rfl⟩
    exact ⟨fileId, link, held⟩
  · rintro ⟨fileId, link, held⟩
    exact ⟨_, ⟨link, held⟩, rfl⟩

theorem sweepAt_swept (c : Cache) (now : Int) : Swept c now (c.sweepAt now).1 (c.sweepAt now).2 := by
  have part : (c.sweepAt now).1.entries.entries.Sublist c.entries.entries := List.filter_sublist
  refine { links := fun key link => ?_, recency := part, batches := fun tableKey batch => ?_,
           batch_order := List.filter_sublist, counted := Nat.sub_add_cancel part.length_le, rest := rfl }
  · rw [sweepAt, OrderedMap.get?_filter, Option.filter_eq_some_iff, Bool.not_eq_true', ← Bool.not_eq_true, doomed_iff]
  · have left : ((c.sweepAt now).1.entries.keys.any fun key => key.tableKey = tableKey) = true ↔
        (c.sweepAt now).1.HasLink tableKey := any_key_iff
    rw [← left, sweepAt, OrderedMap.get?_filter, Option.filter_eq_some_iff, Bool.or_eq_true, Bool.not_eq_true',
      ← Bool.not_eq_true, isReleased_iff, ← imp_iff_not_or, and_imp]

/-- A cache without dead links, where every released batch has a link, is left
as it is. -/
theorem sweepAt_of_clean (alive : ∀ key link, c.entries.get? key = some link → ¬ c.Dead now key link)
    (linked : ∀ tableKey batch, c.batches.get? tableKey = some batch → batch.holders = 0 → batch.lease = none →
      c.HasLink tableKey) : c.sweepAt now = (c, 0) := by
  have links : c.entries.filter (fun key link =>
      !(c.isReleasedKey key.tableKey && decide (link.expiration ≤ now))) = c.entries :=
    OrderedMap.filter_eq_self fun key link held =>
      (Bool.not_eq_true' _).mpr (Bool.eq_false_iff.mpr fun doomed => alive key link held (doomed_iff.mp doomed))
  have batches : c.batches.filter (fun tableKey batch =>
      !Batch.isReleased batch || c.entries.keys.any fun key => key.tableKey = tableKey) = c.batches := by
    refine OrderedMap.filter_eq_self fun tableKey batch registered => ?_
    rw [Bool.or_eq_true, Bool.not_eq_true', ← Bool.not_eq_true, ← imp_iff_not_or, isReleased_iff, any_key_iff]
    rintro ⟨free, idle⟩
    exact linked tableKey batch registered free idle
  rw [sweepAt, links, batches, Nat.sub_self]
  rfl

/-- A batch that is held or refreshed keeps its record and its links. -/
theorem Swept.protects (swept : Swept c now after removed) {tableKey : String} {batch : Batch}
    (registered : c.batches.get? tableKey = some batch) (needed : 0 < batch.holders ∨ batch.lease ≠ none) :
    after.batches.get? tableKey = some batch ∧
      ∀ fileId, after.entries.get? ⟨tableKey, fileId⟩ = c.entries.get? ⟨tableKey, fileId⟩ := by
  have busy : ¬ (batch.holders = 0 ∧ batch.lease = none) := by
    rintro ⟨free, idle⟩
    obtain held | refreshed := needed
    · omega
    · exact refreshed idle
  constructor
  · exact (swept.batches tableKey batch).mpr ⟨registered, fun free idle => absurd ⟨free, idle⟩ busy⟩
  · intro fileId
    ext link
    rw [swept.links, and_iff_left_iff_imp]
    rintro - ⟨-, other, same, released⟩
    obtain rfl : batch = other := Option.some.inj (registered.symm.trans same)
    exact busy released

/-- A second sweep finds nothing: its dead links and idle batches would have
been dead and idle before the first. -/
theorem Swept.again (swept : Swept c now after removed) : after.sweepAt now = (after, 0) := by
  refine sweepAt_of_clean ?_ ?_
  · rintro key link held ⟨expired, batch, registered, released⟩
    obtain ⟨-, alive⟩ := (swept.links key link).mp held
    exact alive ⟨expired, batch, ((swept.batches _ batch).mp registered).1, released⟩
  · intro tableKey batch registered
    exact ((swept.batches tableKey batch).mp registered).2

/-- A sweep removes exactly the dead links and the released batches that they
leave empty, and counts the links; their order and all else stay. A batch that a
scan holds, or whose lease a read has taken to refresh it, loses nothing, and a
second sweep at the same time changes nothing. Without a clock no sweep does. -/
theorem sweep_removes_exactly_the_dead (c : Cache) (m : Moment) :
    (∀ fault, m.epoch = .error fault → c.sweep m = (c, .error fault)) ∧
    ∀ now, m.epoch = .ok now → ∃ after removed, c.sweep m = (after, .ok removed) ∧ Swept c now after removed ∧
      (∀ tableKey batch, c.batches.get? tableKey = some batch → 0 < batch.holders ∨ batch.lease ≠ none →
        after.batches.get? tableKey = some batch ∧
          ∀ fileId, after.entries.get? ⟨tableKey, fileId⟩ = c.entries.get? ⟨tableKey, fileId⟩) ∧
      ∀ later, later.epoch = .ok now → after.sweep later = (after, .ok 0) := by
  constructor
  · intro fault clock
    simp only [sweep, clock]
  · intro now clock
    have swept := sweepAt_swept c now
    refine ⟨_, _, by simp only [sweep, clock], swept, fun tableKey batch registered needed =>
      swept.protects registered needed, fun later same => ?_⟩
    simp only [sweep, same, swept.again]

/-- All links have expired but one. A scan still holds one table, and a service
signs the files of another: a sweep takes the expired links of the two released
tables and drops the one that has no link left. -/
theorem sweep_spares_held_and_refreshed :
    let start : Moment := .still 0 0
    let expired : Moment := .still 100 5
    let register (tableKey : String) (links : List (String × Link)) : Event :=
      ⟨start, .register tableKey ⟨"share", "schema", tableKey⟩ ["part-1"] (.ofList links) (some ⟨"service"⟩)⟩
    let release (tableKey : String) : Event := ⟨start, .release tableKey⟩
    let c := (Traffic.run ⟨none, 0, 10, 10, 60⟩
      [release "signed", release "kept", release "dropped", ⟨start, .get ⟨"signed", "part-1"⟩⟩,
        register "signed" [("part-1", ⟨"old", 0⟩)], register "held" [("part-1", ⟨"old", 50⟩)],
        register "kept" [("part-1", ⟨"old", 50⟩), ("part-2", ⟨"new", 200⟩)],
        register "dropped" [("part-1", ⟨"old", 50⟩)]]).cache
    ∃ after, c.sweep expired = (after, .ok 2) ∧ Swept c 100 after 2 ∧
      after.entries.keys = [⟨"kept", "part-2"⟩, ⟨"held", "part-1"⟩, ⟨"signed", "part-1"⟩] ∧
      after.batches.keys = ["kept", "held", "signed"] ∧ after.sweep expired = (after, .ok 0) := by
  intro start expired register release c
  obtain ⟨after, removed, ended, swept, -, again⟩ := (sweep_removes_exactly_the_dead c expired).2 100 rfl
  have two : (c.sweep expired).2 = .ok 2 := by decide +kernel
  obtain rfl : removed = 2 := by
    rw [ended] at two
    exact Except.ok.inj two
  have left : (c.sweep expired).1.entries.keys =
      [⟨"kept", "part-2"⟩, ⟨"held", "part-1"⟩, ⟨"signed", "part-1"⟩] := by decide +kernel
  have registered : (c.sweep expired).1.batches.keys = ["kept", "held", "signed"] := by decide +kernel
  rw [ended] at left registered
  exact ⟨after, ended, swept, left, registered, again expired rfl⟩

end SharedTables.Cache
