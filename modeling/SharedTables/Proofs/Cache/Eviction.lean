import SharedTables.Proofs.Cache.Contents

/-! Which links an overflow costs. Among entries that stand in the order of
their age, the expired ones of a front go first, and others only once no expired
one is left; what goes is in either case the oldest of its kind. -/
namespace SharedTables.Cache

/-- What is left of entries when exactly the overflow has been evicted: expired
links before all others, and of either kind the older ones first. -/
structure Evicts (room : Nat) (now : Int) (older : EntryKey → EntryKey → Prop)
    (stored kept : List (EntryKey × Link)) : Prop where
  part : kept.Sublist stored
  overflow : stored.length = kept.length + (stored.length - room)
  /-- A link that has not expired goes only if no expired one remains. -/
  expired_first : ∀ p ∈ stored, p ∉ kept → now < p.2.expiration → ∀ q ∈ kept, now < q.2.expiration
  /-- What goes is older than what remains of its kind. -/
  oldest_first : ∀ p ∈ stored, p ∉ kept → ∀ q ∈ kept,
    (now < p.2.expiration ↔ now < q.2.expiration) → older p.1 q.1

/-- Whether a link has not expired. -/
def live (now : Int) (entry : EntryKey × Link) : Bool := decide (now < entry.2.expiration)

/-- The first `count` expired entries are those of a front of the entries, or
there are no more of them. -/
theorem withoutExpired_split (now : Int) (count : Nat) (entries : List (EntryKey × Link)) :
    ∃ front back, entries = front ++ back ∧
      withoutExpired now count entries = front.filter (live now) ++ back ∧
      ((front.filter (live now)).length + count = front.length ∨
        back = [] ∧ front.length ≤ (front.filter (live now)).length + count) := by
  fun_induction withoutExpired now count entries with
  | case1 entries => exact ⟨[], entries, rfl, rfl, Or.inl rfl⟩
  | case2 count => exact ⟨[], [], rfl, rfl, Or.inr ⟨rfl, Nat.zero_le _⟩⟩
  | case3 count entry rest expired ih =>
    obtain ⟨front, back, rfl, kept, counted⟩ := ih
    have dead : live now entry = false := by simpa [live] using expired
    refine ⟨entry :: front, back, rfl, by simpa [dead] using kept, ?_⟩
    simp only [List.filter_cons, dead, Bool.false_eq_true, ↓reduceIte, List.length_cons]
    rcases counted with enough | ⟨done, few⟩
    · exact Or.inl (by omega)
    · exact Or.inr ⟨done, by omega⟩
  | case4 count entry rest fresh ih =>
    obtain ⟨front, back, rfl, kept, counted⟩ := ih
    have alive : live now entry = true := by simpa [live] using fresh
    refine ⟨entry :: front, back, rfl, by simpa [alive] using kept, ?_⟩
    simp only [List.filter_cons, alive, ↓reduceIte, List.length_cons]
    rcases counted with enough | ⟨done, few⟩
    · exact Or.inl (by omega)
    · exact Or.inr ⟨done, by omega⟩

variable {now : Int} {room : Nat} {older : EntryKey → EntryKey → Prop}

/-- The expired ones of a front make up the overflow. -/
private theorem evicts_front {front back : List (EntryKey × Link)}
    (ordered : (front ++ back).Pairwise fun p q => older p.1 q.1)
    (overflow : (front.filter (live now)).length + ((front ++ back).length - room) = front.length) :
    Evicts room now older (front ++ back) (front.filter (live now) ++ back) where
  part := List.filter_sublist.append (List.Sublist.refl back)
  overflow := by
    simp only [List.length_append] at overflow ⊢
    omega
  expired_first := by
    intro p stored gone alive
    have kept : p ∈ front.filter (live now) ++ back := by
      obtain inFront | inBack := List.mem_append.mp stored
      · exact List.mem_append_left _ (List.mem_filter.mpr ⟨inFront, by simpa [live] using alive⟩)
      · exact List.mem_append_right _ inBack
    exact absurd kept gone
  oldest_first := by
    intro p stored gone q kept same
    have inFront : p ∈ front :=
      (List.mem_append.mp stored).resolve_right fun inBack => gone (List.mem_append_right _ inBack)
    have dead : ¬ now < p.2.expiration := fun alive =>
      gone (List.mem_append_left _ (List.mem_filter.mpr ⟨inFront, by simpa [live] using alive⟩))
    have inBack : q ∈ back := by
      refine (List.mem_append.mp kept).resolve_left fun inFront => dead (same.mpr ?_)
      simpa [live] using (List.mem_filter.mp inFront).2
    exact (List.pairwise_append.mp ordered).2.2 p inFront q inBack

/-- All expired entries go, and of the others as many as are still too many. -/
private theorem evicts_all_expired {stored : List (EntryKey × Link)}
    (ordered : stored.Pairwise fun p q => older p.1 q.1)
    (overflow : stored.length ≤ (stored.filter (live now)).length + (stored.length - room)) :
    Evicts room now older stored
      ((stored.filter (live now)).drop ((stored.filter (live now)).length - room)) where
  part := (List.drop_sublist _ _).trans List.filter_sublist
  overflow := by
    have fewer := List.length_filter_le (live now) stored
    rw [List.length_drop]
    omega
  expired_first := by
    intro p _ _ _ q kept
    simpa [live] using (List.mem_filter.mp (List.mem_of_mem_drop kept)).2
  oldest_first := by
    intro p inStored gone q kept same
    have alive : now < q.2.expiration := by
      simpa [live] using (List.mem_filter.mp (List.mem_of_mem_drop kept)).2
    have inLive : p ∈ stored.filter (live now) :=
      List.mem_filter.mpr ⟨inStored, by simpa [live] using same.mpr alive⟩
    have split := List.take_append_drop ((stored.filter (live now)).length - room) (stored.filter (live now))
    have orderedLive := ordered.sublist (List.filter_sublist (p := live now))
    rw [← split] at inLive orderedLive
    have taken := (List.mem_append.mp inLive).resolve_right gone
    exact (List.pairwise_append.mp orderedLive).2.2 p taken q kept

/-- Evicting the overflow from entries in the order of their age. -/
theorem evictOverflow_evicts {stored : OrderedMap EntryKey Link}
    (ordered : stored.entries.Pairwise fun p q => older p.1 q.1) :
    Evicts room now older stored.entries (evictOverflow now room stored).entries := by
  obtain ⟨front, back, split, kept, counted⟩ :=
    withoutExpired_split now (stored.size - room) stored.entries
  have result : (evictOverflow now room stored).entries =
      (front.filter (live now) ++ back).drop ((front.filter (live now) ++ back).length - room) := by
    simp only [evictOverflow, OrderedMap.drop, OrderedMap.size, ← kept]
  rw [OrderedMap.size, split] at counted
  rw [result, split]
  rw [split] at ordered
  rcases counted with enough | ⟨rfl, few⟩
  · have whole : Evicts room now older (front ++ back) (front.filter (live now) ++ back) :=
      evicts_front ordered enough
    have exactly := whole.overflow
    have room_left : (front.filter (live now) ++ back).length - room = 0 := by omega
    rw [room_left, List.drop_zero]
    exact whole
  · rw [List.append_nil] at ordered few ⊢
    rw [List.append_nil]
    exact evicts_all_expired ordered few

end SharedTables.Cache
