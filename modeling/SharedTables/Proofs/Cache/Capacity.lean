import SharedTables.Proofs.Cache.Recency

/-! How many links a cache holds, and which ones a store with too many costs.
The capacity is always kept, and the overflow, and no more, is evicted by the
order of the last touches. That takes a clock which says what time it is, as the
clock of expirations is meant to do. -/
namespace SharedTables.Cache

/-- Whether the clock of expirations can be read at an event. -/
def Event.Readable (e : Event) : Prop := e.moment.Readable

theorem size_touch {entries : OrderedMap EntryKey Link} {key : EntryKey} :
    (entries.touch key).size = entries.size := by
  have same : (entries.touch key).keys.Perm entries.keys := by
    refine (List.perm_ext_iff_of_nodup (entries.touch key).nodup entries.nodup).mpr fun other => ?_
    have held := OrderedMap.mem_keys_iff (m := entries.touch key) (k := other)
    rw [OrderedMap.get?_touch] at held
    exact held.trans OrderedMap.mem_keys_iff.symm
  simpa [OrderedMap.keys, OrderedMap.size] using same.length_eq

/-- With a clock that can be read exactly the overflow goes, by the order in which the entries stand. -/
theorem capped_evicts {m : Moment} {older : EntryKey → EntryKey → Prop} {stored : OrderedMap EntryKey Link}
    (clock : m.epoch = .ok now) (room : Nat) (ordered : stored.keys.Pairwise older) :
    Evicts room now older stored.entries (capped m room stored).entries := by
  have entries : stored.entries.Pairwise fun p q => older p.1 q.1 := List.pairwise_map.mp ordered
  by_cases fits : stored.size ≤ room
  · simp only [capped, fits, ↓reduceIte]
    exact {
      part := List.Sublist.refl _
      overflow := by
        simp only [OrderedMap.size] at fits
        omega
      expired_first := fun p held gone => absurd held gone
      oldest_first := fun p held gone => absurd held gone }
  · simp only [capped, fits, ↓reduceIte, clock]
    exact evictOverflow_evicts entries

/-- What is left then fits. -/
theorem size_capped {m : Moment} {stored : OrderedMap EntryKey Link} (clock : m.epoch = .ok now) (room : Nat) :
    (capped m room stored).size ≤ room := by
  have ordered : stored.keys.Pairwise fun _ _ => True := List.pairwise_of_forall fun _ _ => trivial
  have exactly := (capped_evicts clock room ordered).overflow
  simp only [OrderedMap.size]
  omega

namespace Traffic

theorem step_inTouchOrder {t : Traffic} (order : InTouchOrder t.cache.entries log) (e : Event) :
    InTouchOrder (t.step e).cache.entries (t.touches e ++ log) := by
  unfold touches
  cases stored : t.stocks e with
  | some s =>
    rw [step_stocks stored]
    exact (order.stocked s).part (capped_part _ _ _)
  | none =>
    obtain ⟨key, found, touched⟩ | ⟨missed, part⟩ := step_unstocked stored
    · rw [found, touched]
      exact order.touch
    · rw [missed]
      exact order.part part

/-- After every history the links stand in the order of their last touches. -/
theorem inTouchOrder_run (settings : CacheSettings) (calls : List Event) :
    InTouchOrder (run settings calls).cache.entries (touchLog settings calls) := by
  induction calls with
  | nil => exact ⟨fun key absent => absurd absent List.not_mem_nil, .nil⟩
  | cons e earlier ih => exact step_inTouchOrder ih e

theorem step_fits {t : Traffic} {e : Event} (readable : e.Readable)
    (fits : t.cache.entries.size ≤ t.cache.settings.maxEntries) :
    (t.step e).cache.entries.size ≤ t.cache.settings.maxEntries := by
  cases stored : t.stocks e with
  | some s =>
    rw [step_stocks stored]
    obtain ⟨now, clock⟩ := readable.first
    exact size_capped clock _
  | none =>
    obtain ⟨key, -, touched⟩ | ⟨-, part⟩ := step_unstocked stored
    · rw [touched, size_touch]
      exact fits
    · exact Nat.le_trans part.length_le fits

theorem run_fits {settings : CacheSettings} {calls : List Event} (readable : ∀ e ∈ calls, e.Readable) :
    (run settings calls).cache.entries.size ≤ settings.maxEntries := by
  induction calls with
  | nil => exact Nat.zero_le _
  | cons e earlier ih =>
    obtain ⟨last, before⟩ := List.forall_mem_cons.mp readable
    have fits : (run settings earlier).cache.entries.size ≤ (run settings earlier).cache.settings.maxEntries := by
      rw [settings_run]
      exact ih before
    have after := step_fits last fits
    rwa [settings_run] at after

/-- As long as the clock can be read, a cache holds no more links than it may
between any two stretches. A store of more links than fit evicts exactly the
overflow: expired links before all others, and of either kind those that were
touched the longest time ago. Any other store evicts nothing. -/
theorem overflow_goes_by_last_touch (settings : CacheSettings) (calls : List Event)
    (readable : ∀ e ∈ calls, e.Readable) :
    let t := run settings calls
    t.cache.entries.size ≤ settings.maxEntries ∧
    ∀ e s, e.Readable → t.stocks e = some s →
      let stored := t.cache.stocked s
      let kept := (run settings (e :: calls)).cache.entries
      (stored.size ≤ settings.maxEntries → kept = stored) ∧
      ∃ now, e.moment.epoch = .ok now ∧ Evicts settings.maxEntries now
        (TouchedBefore (touchLog settings (e :: calls))) stored.entries kept.entries := by
  intro t
  refine ⟨run_fits readable, ?_⟩
  intro e s readable stocks stored kept
  have capped : kept = capped e.moment settings.maxEntries stored := by
    have after := step_stocks stocks
    rwa [settings_run] at after
  have touches : t.touches e = s.touches := by simp only [touches, stocks]
  have ordered : InTouchOrder stored (touchLog settings (e :: calls)) := by
    rw [touchLog, touches]
    exact (inTouchOrder_run settings calls).stocked s
  obtain ⟨now, clock⟩ := readable.first
  rw [capped]
  exact ⟨fun fits => if_pos fits, now, clock, capped_evicts clock _ ordered.ordered⟩

/-- Two links too many for a cache of three cost the expired one first, and then
the one that has not been read. -/
theorem expired_and_unread_links_go :
    let settings : CacheSettings := ⟨none, 0, 3, 30, 60⟩
    let register (now : Int) (links : Links) : Event :=
      ⟨.still now 0, .register "orders" ⟨"share", "schema", "orders"⟩ links.keys links none⟩
    let calls : List Event :=
      [⟨.still 1 0, .get ⟨"orders", "read"⟩⟩,
        register 0 (.ofList [("read", ⟨"r", 100⟩), ("unread", ⟨"u", 100⟩), ("short", ⟨"s", 5⟩)])]
    let new : Links := .ofList [("new", ⟨"n", 100⟩), ("newer", ⟨"m", 100⟩)]
    let c := (run settings calls).cache
    let kept := (run settings (register 10 new :: calls)).cache.entries
    c.entries.size ≤ 3 ∧
      Evicts 3 10 (TouchedBefore (touchLog settings (register 10 new :: calls)))
        (c.stocked ⟨"orders", new, none⟩).entries kept.entries ∧
      kept.keys = [⟨"orders", "read"⟩, ⟨"orders", "new"⟩, ⟨"orders", "newer"⟩] := by
  intro settings register calls new c kept
  have readable (now : Int) (call : Call) : Event.Readable ⟨.still now 0, call⟩ := .still now 0
  have history : ∀ e ∈ calls, e.Readable :=
    List.forall_mem_cons.mpr ⟨readable 1 _, List.forall_mem_singleton.mpr (readable 0 _)⟩
  obtain ⟨fits, store⟩ := overflow_goes_by_last_touch settings calls history
  have stocks : (run settings calls).stocks (register 10 new) = some ⟨"orders", new, none⟩ := rfl
  obtain ⟨-, now, clock, evicts⟩ := store (register 10 new) ⟨"orders", new, none⟩ (readable 10 _) stocks
  obtain rfl : 10 = now := Except.ok.inj clock
  exact ⟨fits, evicts, by decide +kernel⟩

end Traffic
end SharedTables.Cache
