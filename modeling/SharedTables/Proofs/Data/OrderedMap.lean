import Mathlib.Data.List.Nodup
import SharedTables.Data.OrderedMap

/-! Ordered maps seen through their lookups: each operation is described by
what it changes at one key, and leaves every other key alone. -/
namespace SharedTables.OrderedMap

variable {κ : Type u} {α : Type v} [DecidableEq κ] {m m' : OrderedMap κ α} {k k' : κ} {a : α}

/-- A key has the value that stands beside it. -/
theorem get?_eq_some_iff : m.get? k = some a ↔ (k, a) ∈ m.entries := by
  obtain ⟨entries, nodup⟩ := m
  simp only [get?]
  induction entries with
  | nil => simp
  | cons entry rest ih =>
    obtain ⟨key, value⟩ := entry
    simp only [List.map_cons, List.nodup_cons, List.mem_map, not_exists, not_and] at nodup
    by_cases same : k = key
    · subst same
      have absent : (k, a) ∉ rest := fun member => nodup.1 _ member rfl
      simp [absent, eq_comm]
    · have differ : (k == key) = false := by simp [same]
      simp [List.lookup_cons, differ, ih nodup.2, same]

theorem mem_keys_iff : k ∈ m.keys ↔ ∃ a, m.get? k = some a := by
  simp [keys, get?_eq_some_iff]

@[simp] theorem get?_empty : (empty : OrderedMap κ α).get? k = none := rfl

/-- What is found in a part of a map is found in the map. -/
theorem get?_of_subset (part : ∀ entry ∈ m'.entries, entry ∈ m.entries) (found : m'.get? k = some a) :
    m.get? k = some a :=
  get?_eq_some_iff.mpr (part _ (get?_eq_some_iff.mp found))

@[simp] theorem get?_mapValues {f : κ → α → β} : (m.mapValues f).get? k = (m.get? k).map (f k) := by
  ext b
  simp only [get?_eq_some_iff, mapValues, List.mem_map, Option.map_eq_some_iff, Prod.mk.injEq]
  constructor
  · rintro ⟨⟨key, value⟩, member, rfl, rfl⟩
    exact ⟨value, member, rfl⟩
  · rintro ⟨value, member, rfl⟩
    exact ⟨_, member, rfl, rfl⟩

@[simp] theorem get?_filter {keep : κ → α → Bool} :
    (m.filter keep).get? k = (m.get? k).filter (keep k) := by
  ext b
  simp [get?_eq_some_iff, filter, Option.filter_eq_some_iff]

@[simp] theorem get?_append {fresh : k ∉ m.keys} :
    (m.append k a fresh).get? k' = if k' = k then some a else m.get? k' := by
  ext b
  simp only [get?_eq_some_iff, append, List.mem_append, List.mem_singleton, Prod.mk.injEq]
  split <;> rename_i same
  · subst same
    have absent : (k', b) ∉ m.entries := fun member =>
      fresh (mem_keys_iff.mpr ⟨b, get?_eq_some_iff.mpr member⟩)
    simp [absent, eq_comm]
  · simp [same, get?_eq_some_iff]

@[simp] theorem get?_push : (m.push k a).get? k' = if k' = k then some a else m.get? k' := by
  rw [push, get?_append]
  split <;> rename_i same
  · rfl
  · cases found : m.get? k' <;> simp [erase, found, same]

@[simp] theorem get?_insert : (m.insert k a).get? k' = if k' = k then some a else m.get? k' := by
  unfold insert
  split <;> rename_i member
  · by_cases same : k' = k
    · subst same
      obtain ⟨old, found⟩ := mem_keys_iff.mp member
      simp [found]
    · simp [same]
  · exact get?_append

@[simp] theorem get?_modify {f : α → α} :
    (m.modify k f).get? k' = if k' = k then (m.get? k').map f else m.get? k' := by
  by_cases same : k' = k <;> simp [modify, same]

@[simp] theorem get?_touch : (m.touch k).get? k' = m.get? k' := by
  cases found : m.get? k with
  | none => simp [touch, found]
  | some a =>
    simp only [touch, found, get?_push]
    split <;> simp_all

theorem entries_inj {κ : Type u} {m m' : OrderedMap κ α} : m.entries = m'.entries ↔ m = m' := by
  cases m
  cases m'
  simp

/-- Nothing is taken out of a map all of whose pairs satisfy the condition. -/
theorem filter_eq_self {keep : κ → α → Bool} (all : ∀ k a, m.get? k = some a → keep k a = true) :
    m.filter keep = m := by
  refine entries_inj.mp (List.filter_eq_self.mpr ?_)
  rintro ⟨k, a⟩ member
  exact all k a (get?_eq_some_iff.mpr member)

/-! The part of a map under keys of one kind. -/

private theorem filter_erase (keep : κ → Bool) (m : OrderedMap κ α) (k : κ) :
    (m.erase k).filter (fun k' _ => keep k') = (m.filter fun k' _ => keep k').erase k :=
  entries_inj.mp (by simp only [erase, filter, List.filter_filter, Bool.and_comm])

theorem filter_push {keep : κ → Bool} (kept : keep k = true) :
    (m.push k a).filter (fun k' _ => keep k') = (m.filter fun k' _ => keep k').push k a := by
  have rest := entries_inj.mpr (filter_erase keep m k)
  refine entries_inj.mp ?_
  simp only [push, append, filter] at rest ⊢
  rw [List.filter_append, rest]
  simp [kept]

theorem filter_push_of_not {keep : κ → Bool} (left : keep k = false) :
    (m.push k a).filter (fun k' _ => keep k') = m.filter fun k' _ => keep k' := by
  refine entries_inj.mp ?_
  simp only [push, append, erase, filter, List.filter_append, List.filter_filter]
  have same : (m.entries.filter fun p => keep p.1 && decide (p.1 ≠ k)) = m.entries.filter fun p => keep p.1 := by
    refine List.filter_congr fun p _ => ?_
    by_cases own : p.1 = k
    · simp [own, left]
    · simp [own]
  rw [same]
  simp [left]

theorem filter_touch {keep : κ → Bool} (kept : keep k = true) :
    (m.touch k).filter (fun k' _ => keep k') = (m.filter fun k' _ => keep k').touch k := by
  have found : (m.filter fun k' _ => keep k').get? k = m.get? k := by
    rw [get?_filter]
    cases m.get? k with
    | none => rfl
    | some a => exact Option.filter_some_pos kept
  unfold touch
  rw [found]
  cases m.get? k with
  | none => rfl
  | some a => exact filter_push kept

theorem filter_touch_of_not {keep : κ → Bool} (left : keep k = false) :
    (m.touch k).filter (fun k' _ => keep k') = m.filter fun k' _ => keep k' := by
  unfold touch
  cases m.get? k with
  | none => rfl
  | some a => exact filter_push_of_not left

/-! Maps that are filled pair by pair: the last pair of a key counts. -/

private theorem get?_foldl_insert (pairs : List (κ × α)) (m : OrderedMap κ α) :
    (pairs.foldl (fun m p => m.insert p.1 p.2) m).get? k = (pairs.reverse.lookup k).or (m.get? k) := by
  induction pairs generalizing m with
  | nil => rfl
  | cons p rest ih =>
    obtain ⟨key, value⟩ := p
    rw [List.foldl_cons, ih, get?_insert, List.reverse_cons, List.lookup_append, Option.or_assoc, List.lookup_cons]
    by_cases same : k = key
    · simp [same]
    · simp [same, beq_false_of_ne same]

theorem get?_ofList {pairs : List (κ × α)} : (ofList pairs).get? k = pairs.reverse.lookup k :=
  (get?_foldl_insert pairs empty).trans (Option.or_none)

theorem mem_keys_ofList {pairs : List (κ × α)} : k ∈ (ofList pairs).keys ↔ k ∈ pairs.map Prod.fst := by
  rw [mem_keys_iff, ← Option.isSome_iff_exists, get?_ofList, List.lookup_isSome_iff]
  simp only [List.mem_reverse, beq_iff_eq, List.mem_map, @eq_comm _ k]

/-- What is found in a map stands in the list from which the map was read. -/
theorem mem_of_get?_ofList {pairs : List (κ × α)} (found : (ofList pairs).get? k = some a) : (k, a) ∈ pairs := by
  rw [get?_ofList] at found
  obtain ⟨before, after, split, -⟩ := List.lookup_eq_some_iff.mp found
  exact List.mem_reverse.mp (split ▸ by simp)

/-- A map to which the pairs of another have been added. -/
theorem get?_insertAll (added m : OrderedMap κ α) :
    (added.entries.foldl (fun m p => m.insert p.1 p.2) m).get? k = (added.get? k).or (m.get? k) := by
  have distinct : (added.entries.reverse.map Prod.fst).Nodup := by
    rw [List.map_reverse]
    exact List.nodup_reverse.mpr added.nodup
  have same : added.entries.reverse.lookup k = added.get? k := by
    ext a
    have reversed := get?_eq_some_iff (m := ⟨added.entries.reverse, distinct⟩) (k := k) (a := a)
    rw [List.mem_reverse, ← get?_eq_some_iff] at reversed
    exact reversed
  rw [get?_foldl_insert, same]

/-! Maps in the order of their keys. -/

section Sorted

variable {m m' : OrderedMap String α} {k : String}

@[simp] theorem get?_sortByKey : m.sortByKey.get? k = m.get? k := by
  ext a
  simp only [get?_eq_some_iff, sortByKey]
  exact List.mem_mergeSort

private theorem sortByKey_pairwise (m : OrderedMap String α) :
    m.sortByKey.entries.Pairwise fun a b => a.1 ≤ b.1 := by
  let le (a b : String × α) : Bool := decide (a.1 ≤ b.1)
  have trans (a b c : String × α) (before : le a b) (after : le b c) : le a c :=
    decide_eq_true (String.le_trans (of_decide_eq_true before) (of_decide_eq_true after))
  have total (a b : String × α) : le a b || le b a := by simpa [le] using String.le_total a.1 b.1
  have ordered : (m.entries.mergeSort le).Pairwise fun a b => le a b := List.pairwise_mergeSort trans total m.entries
  exact ordered.imp fun le => of_decide_eq_true le

/-- Maps with the same values are the same once they are in order. -/
theorem sortByKey_eq_iff : m.sortByKey = m'.sortByKey ↔ ∀ k, m.get? k = m'.get? k := by
  constructor
  · intro same k
    rw [← get?_sortByKey, same, get?_sortByKey]
  · intro same
    have members (p : String × α) : p ∈ m.sortByKey.entries ↔ p ∈ m'.sortByKey.entries := by
      rw [← get?_eq_some_iff, ← get?_eq_some_iff, get?_sortByKey, get?_sortByKey, same]
    have perm : m.sortByKey.entries.Perm m'.sortByKey.entries :=
      (List.perm_ext_iff_of_nodup (List.Nodup.of_map _ m.sortByKey.nodup)
        (List.Nodup.of_map _ m'.sortByKey.nodup)).mpr members
    refine entries_inj.mp (List.Perm.eq_of_pairwise ?_ m.sortByKey_pairwise m'.sortByKey_pairwise perm)
    rintro ⟨k, a⟩ ⟨k', b⟩ left right below above
    obtain rfl : k = k' := String.le_antisymm below above
    have found := get?_eq_some_iff.mpr ((members _).mp left)
    rw [Option.some.inj (found.symm.trans (get?_eq_some_iff.mpr right))]

end Sorted

end SharedTables.OrderedMap
