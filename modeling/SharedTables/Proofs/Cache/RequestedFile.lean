import SharedTables.Proofs.Cache.Capacity
import SharedTables.Proofs.Cache.Leftovers

/-! The file that a read asked for. A read keeps to its file until it ends, and
the link that it gets is stocked last. So whatever else an answer brings, no
eviction takes that link before it has expired and leaves another. -/
namespace SharedTables.Cache

variable {entries : OrderedMap EntryKey Link} {key : EntryKey} {link : Link} {now : Int} {room : Nat}

/-- Whether a link stands last, where the most recently used one belongs. -/
def Newest (entries : OrderedMap EntryKey Link) (key : EntryKey) (link : Link) : Prop :=
  ∃ others, entries.entries = others ++ [(key, link)]

theorem Newest.get?_eq (newest : Newest entries key link) : entries.get? key = some link := by
  obtain ⟨others, split⟩ := newest
  exact OrderedMap.get?_eq_some_iff.mpr (split ▸ List.mem_append_right _ List.mem_cons_self)

/-- The other links are under other keys. -/
theorem Newest.others_differ {others : List (EntryKey × Link)} (split : entries.entries = others ++ [(key, link)]) :
    ∀ p ∈ others, p.1 ≠ key := by
  intro p member same
  have distinct := entries.nodup
  rw [split, List.map_append, List.nodup_append] at distinct
  exact distinct.2.2 p.1 (List.mem_map_of_mem member) key List.mem_cons_self same

/-- The newest link stays the newest in any part that still has it. -/
theorem Newest.part {kept : OrderedMap EntryKey Link} (newest : Newest entries key link)
    (part : kept.entries.Sublist entries.entries) (held : kept.get? key ≠ none) : Newest kept key link := by
  obtain ⟨others, split⟩ := newest
  obtain ⟨front, back, parts, before, last⟩ := List.sublist_append_iff.mp (split ▸ part)
  obtain rfl | rfl := List.sublist_singleton.mp last
  · obtain ⟨left, found⟩ := Option.ne_none_iff_exists'.mp held
    have member : (key, left) ∈ front := by simpa [parts] using OrderedMap.get?_eq_some_iff.mp found
    exact absurd rfl (Newest.others_differ split _ (before.mem member))
  · exact ⟨front, parts⟩

/-- A link that was requested is stocked last. -/
theorem stocked_newest (c : Cache) {links : Links} (signed : links.get? key.fileId = some link) :
    Newest (c.stocked ⟨key.tableKey, links, some key⟩) key link := by
  have put : (putLinks key.tableKey links c.entries).get? key = some link :=
    get?_putLinks.trans (by rw [signed, Option.some_or])
  refine ⟨((putLinks key.tableKey links c.entries).erase key).entries, ?_⟩
  simp only [stocked, OrderedMap.touch, put]
  rfl

/-- As long as the newest link has not expired, an eviction takes it only with all others. -/
theorem Newest.evicted_last (newest : Newest entries key link) (unexpired : now < link.expiration)
    (taken : (evictOverflow now room entries).get? key = none) : evictOverflow now room entries = .empty := by
  obtain ⟨others, split⟩ := newest
  -- Every entry is older than the others but the newest one, which is older than none.
  have ordered : entries.entries.Pairwise fun p _ => p.1 ≠ key := by
    rw [split, List.pairwise_append]
    have differ := Newest.others_differ split
    exact ⟨List.pairwise_of_forall_mem_list fun p member _ _ => differ p member, List.pairwise_singleton _ _,
      fun p member _ _ => differ p member⟩
  have evicts : Evicts room now (fun first _ => first ≠ key) entries.entries
      (evictOverflow now room entries).entries := evictOverflow_evicts ordered
  have stored : (key, link) ∈ entries.entries := split ▸ List.mem_append_right _ List.mem_cons_self
  have gone : (key, link) ∉ (evictOverflow now room entries).entries := fun kept => by
    cases (OrderedMap.get?_eq_some_iff.mpr kept).symm.trans taken
  refine OrderedMap.entries_inj.mp (List.eq_nil_iff_forall_not_mem.mpr fun q kept => ?_)
  have alive := evicts.expired_first _ stored gone unexpired q kept
  exact evicts.oldest_first _ stored gone q kept (iff_of_true unexpired alive) rfl

/-- A cache that may hold a link at all keeps the newest one, if that has not expired. -/
theorem Newest.capped {m : Moment} (newest : Newest entries key link) (clock : m.epoch = .ok now)
    (unexpired : now < link.expiration) (positive : 0 < room) : Newest (Cache.capped m room entries) key link := by
  refine newest.part (capped_part m room entries) fun taken => ?_
  by_cases fits : entries.size ≤ room
  · simp only [Cache.capped, fits, ↓reduceIte, newest.get?_eq] at taken
    cases taken
  · have ordered : entries.keys.Pairwise fun _ _ => True := List.pairwise_of_forall fun _ _ => trivial
    have exactly := (capped_evicts clock room ordered).overflow
    simp only [Cache.capped, fits, ↓reduceIte, clock] at taken exactly
    rw [newest.evicted_last unexpired taken] at exactly
    simp only [OrderedMap.empty, OrderedMap.size, List.length_nil] at exactly fits
    omega

/-- The file of a read that has not ended. -/
def Stage.file? : Stage → Option EntryKey
  | .waiting l => some l.key
  | .signing call => some call.refresh.key
  | .ended _ => none

namespace Traffic

/-- Whether a read is for a file and no other. -/
def KeepsTo (t : Traffic) (read : Nat) (key : EntryKey) : Prop :=
  read < t.reads.length ∧ ∀ stage, t.reads[read]? = some stage → ∀ file ∈ stage.file?, file = key

theorem KeepsTo.changed {read : Nat} (keeps : KeepsTo t read key) (change : Change t m t') :
    KeepsTo t' read key := by
  refine ⟨Nat.lt_of_lt_of_le keeps.1 change.reads_grow, fun stage reached file aimed => ?_⟩
  -- A read that goes on goes on with the file that it had.
  have goes_on {other : Nat} {last next : Stage} (was : t.reads[other]? = some last)
      (same : ∀ file ∈ next.file?, file ∈ last.file?) (now : (t.reads.set other next)[read]? = some stage) :
      file = key := by
    by_cases mine : other = read
    · subst mine
      rw [List.getElem?_set_self keeps.1] at now
      cases now
      exact keeps.2 last was file (same file aimed)
    · rw [List.getElem?_set_ne mine] at now
      exact keeps.2 stage now file aimed
  cases change with
  | registers | releases | sweeps => exact keeps.2 stage reached file aimed
  | begins l unseen =>
    rw [begin, List.getElem?_append_left keeps.1] at reached
    exact keeps.2 stage reached file aimed
  | ends other l c result waiting | unserved other l batch c fault result waiting =>
    exact goes_on waiting (by simp [Stage.file?]) reached
  | waits other l batch waiting => exact goes_on waiting (by simp [Stage.file?]) reached
  | signs other l batch issuer call waiting registered unmoved free started =>
    subst started
    have same : Stage.file? (.signing ⟨issuer, (t.cache.takeLease m l.key batch).2, m.monotonic⟩) = some l.key := rfl
    exact goes_on waiting (fun file aimed => same ▸ aimed) reached
  | answers other call signature signing => exact goes_on signing (by simp [Stage.file?]) reached

/-- A read is for the file that it began with, however long it waits or lets a service sign. -/
theorem run_keepsTo (settings : CacheSettings) (later before : List Event) (m : Moment) (key : EntryKey) :
    KeepsTo (run settings (later ++ ⟨m, .get key⟩ :: before)) (run settings before).reads.length key := by
  refine run_keeps (fun t => KeepsTo t (run settings before).reads.length key) ?_ KeepsTo.changed id later
  let t := run settings before
  let l := t.cache.beginLookup m key
  have begun : KeepsTo (t.begin l) t.reads.length key := by
    refine ⟨by simp [begin], fun stage reached file aimed => ?_⟩
    rw [begin, List.getElem?_concat_length] at reached
    cases reached
    exact (Option.some.inj aimed).symm
  exact begun.changed (look_change List.getElem?_concat_length)

/-- A read whose refresh is answered with a link for its file returns that link,
unless it has expired meanwhile, however many links the answer brings and the
cache may hold. The link is then the last one that an eviction would take. -/
theorem requested_file_survives_its_refresh {settings : CacheSettings} {before during : List Event}
    {begun finished : Moment} {key : EntryKey} {call : SignCall} {answer : Links} {link : Link} {now : Int}
    (positive : 0 < settings.maxEntries)
    (signing : (run settings (during ++ ⟨begun, .get key⟩ :: before)).Signing (run settings before).reads.length call)
    (signed : answer.get? key.fileId = some link) (clock : finished.epoch = .ok now)
    (unexpired : now < link.expiration) :
    let calls := during ++ ⟨begun, .get key⟩ :: before
    let read := (run settings before).reads.length
    let e : Event := ⟨finished, .answer read (.ok (some answer))⟩
    let kept := (run settings (e :: calls)).cache.entries
    EndsWith settings calls e read (.ok link) ∧ kept.get? key = some link ∧ Newest kept key link ∧
      ∀ later room, later < link.expiration →
        (evictOverflow later room kept).get? key = none → evictOverflow later room kept = .empty := by
  intro calls read e kept
  have own : call.refresh.key = key := (run_keepsTo settings during before begun key).2 _ signing _ rfl
  have stocks : (run settings calls).stocks e = some ⟨key.tableKey, answer, some key⟩ := by
    simp only [Traffic.stocks, e, read, calls, signing, own, Option.getD_some]
  have newest : Newest kept key link := by
    have stored : kept = capped finished settings.maxEntries
        ((run settings calls).cache.stocked ⟨key.tableKey, answer, some key⟩) := by
      have after := step_stocks stocks
      rwa [settings_run] at after
    rw [stored]
    exact (stocked_newest _ signed).capped clock unexpired positive
  have ends : EndsWith settings calls e read (.ok link) := by
    have result := (finishRefresh_result (run settings calls).cache call.refresh (some answer) clock).2
    have there : ((run settings calls).cache.finishRefresh finished call.refresh (.ok (some answer))).1.entries =
        kept := by
      simp only [kept, e, run, step, read, calls, signing, Traffic.answer]
    rw [there, own, newest.get?_eq] at result
    have ended := EndsWith.of_answer signing finished (.ok (some answer))
    rwa [result] at ended
  exact ⟨ends, newest.get?_eq, newest, fun later room alive taken => newest.evicted_last alive taken⟩

/-- A cache for one link keeps the one that was asked for, though the answer
brings others before and after it and an unexpired link of another table is there. -/
theorem only_place_goes_to_requested_file :
    let settings : CacheSettings := ⟨some ⟨"service"⟩, 0, 1, 10, 60⟩
    let moment : Moment := .still 0 0
    let key : EntryKey := ⟨"orders", "part-1"⟩
    let table (name : String) : TableReference := ⟨"share", "schema", name⟩
    let before : List Event :=
      [⟨moment, .register "orders" (table "orders") ["part-1"] .empty none⟩,
        ⟨moment, .register "payroll" (table "payroll") ["part-1"] (.ofList [("part-1", ⟨"p", 900⟩)]) none⟩]
    let calls := ⟨moment, .get key⟩ :: before
    let answer : Links := .ofList [("part-0", ⟨"a", 900⟩), ("part-1", ⟨"b", 100⟩), ("part-2", ⟨"c", 900⟩)]
    let e : Event := ⟨.still 50 5, .answer 0 (.ok (some answer))⟩
    EndsWith settings calls e 0 (.ok ⟨"b", 100⟩) ∧
      (run settings (e :: calls)).cache.entries.entries = [(key, ⟨"b", 100⟩)] := by
  intro settings moment key table before calls answer e
  have signing : (run settings ([] ++ calls)).Signing 0
      ⟨⟨"service"⟩, ⟨key, 1, 2, table "orders", ["part-1"]⟩, 0⟩ := by
    decide +kernel
  obtain ⟨ends, -⟩ := requested_file_survives_its_refresh (by decide) signing
    (show answer.get? "part-1" = some ⟨"b", 100⟩ by decide +kernel)
    (show (Moment.still 50 5).epoch = .ok 50 from rfl) (by decide)
  exact ⟨ends, by decide +kernel⟩

end Traffic
end SharedTables.Cache
