/-! Maps that remember an order. A key occurs at most once; storing can keep the
place of a key or move it to the end, so the same type serves decoded objects,
listings and the recency order of cached entries. -/
namespace SharedTables

/-- Finitely many keys, one value each, in a definite order. -/
structure OrderedMap (κ : Type u) (α : Type v) where
  /-- The pairs, first to last. -/
  entries : List (κ × α)
  /-- No key occurs twice. -/
  nodup : (entries.map Prod.fst).Nodup
  deriving DecidableEq

namespace OrderedMap

variable {κ : Type u} {α : Type v}

/-- The map without keys. -/
def empty : OrderedMap κ α := ⟨[], by simp⟩

instance : Inhabited (OrderedMap κ α) := ⟨empty⟩

/-- The keys, first to last. -/
def keys (m : OrderedMap κ α) : List κ := m.entries.map Prod.fst

/-- The values, first to last. -/
def values (m : OrderedMap κ α) : List α := m.entries.map Prod.snd

/-- The number of keys. -/
def size (m : OrderedMap κ α) : Nat := m.entries.length

/-- The pairs that satisfy a condition, in their old order. -/
def filter (m : OrderedMap κ α) (keep : κ → α → Bool) : OrderedMap κ α :=
  ⟨m.entries.filter fun p => keep p.1 p.2,
    m.nodup.sublist (List.Sublist.map _ List.filter_sublist)⟩

/-- The map without its first `n` pairs. -/
def drop (m : OrderedMap κ α) (n : Nat) : OrderedMap κ α :=
  ⟨m.entries.drop n, m.nodup.sublist (List.Sublist.map _ (List.drop_sublist n _))⟩

/-- Every value replaced, keys and order kept. -/
def mapValues (m : OrderedMap κ α) (f : κ → α → β) : OrderedMap κ β :=
  ⟨m.entries.map fun p => (p.1, f p.1 p.2), by
    have same : (m.entries.map fun p => (p.1, f p.1 p.2)).map Prod.fst = m.entries.map Prod.fst := by
      simp [List.map_map, Function.comp_def]
    rw [same]; exact m.nodup⟩

/-- The pairs in the order of their keys. -/
def sortByKey (m : OrderedMap String α) : OrderedMap String α :=
  ⟨m.entries.mergeSort fun a b => decide (a.1 ≤ b.1),
    ((List.mergeSort_perm _ _).map Prod.fst).nodup_iff.2 m.nodup⟩

variable [DecidableEq κ]

/-- The value at a key. -/
def get? (m : OrderedMap κ α) (k : κ) : Option α := m.entries.lookup k

/-- Whether a key has a value. -/
def contains (m : OrderedMap κ α) (k : κ) : Bool := decide (k ∈ m.keys)

/-- The map without a key. -/
def erase (m : OrderedMap κ α) (k : κ) : OrderedMap κ α := m.filter fun k' _ => decide (k' ≠ k)

/-- A new key goes to the end of a map that does not hold it. -/
def append (m : OrderedMap κ α) (k : κ) (a : α) (fresh : k ∉ m.keys) : OrderedMap κ α :=
  ⟨m.entries ++ [(k, a)], by
    rw [List.map_append]
    refine List.nodup_append.2 ⟨m.nodup, by simp, ?_⟩
    intro x hx y hy same
    simp only [List.map_cons, List.map_nil, List.mem_singleton] at hy
    subst hy same
    exact fresh hx⟩

theorem not_mem_keys_erase (m : OrderedMap κ α) (k : κ) : k ∉ (m.erase k).keys := by
  simp [erase, filter, keys]

/-- Stores at the end, wherever the key was before. -/
def push (m : OrderedMap κ α) (k : κ) (a : α) : OrderedMap κ α :=
  (m.erase k).append k a (m.not_mem_keys_erase k)

/-- Stores at the key's own place, at the end when the key is new. -/
def insert (m : OrderedMap κ α) (k : κ) (a : α) : OrderedMap κ α :=
  if h : k ∈ m.keys then m.mapValues fun k' old => if k' = k then a else old
  else m.append k a h

/-- Moves a key to the end and keeps its value; a missing key changes nothing. -/
def touch (m : OrderedMap κ α) (k : κ) : OrderedMap κ α :=
  match m.get? k with
  | some a => m.push k a
  | none => m

/-- Changes the value at a key in its place; a missing key changes nothing. -/
def modify (m : OrderedMap κ α) (k : κ) (f : α → α) : OrderedMap κ α :=
  m.mapValues fun k' a => if k' = k then f a else a

/-- Reads pairs in order; a later pair replaces the value of an earlier one in its place. -/
def ofList (pairs : List (κ × α)) : OrderedMap κ α :=
  pairs.foldl (fun m p => m.insert p.1 p.2) empty

end OrderedMap
end SharedTables
