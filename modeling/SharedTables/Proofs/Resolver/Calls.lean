import SharedTables.Proofs.Data.OrderedMap
import SharedTables.Proofs.Resolver.Session

/-! What an event of a session does. A call of a resolver moves on by one
stretch, which is given by the call's stage and the reply that it gets; the
other events concern a resolver or the cache as a whole. -/
namespace SharedTables.Session

/-- Whether an event lets a call of a resolver move on. -/
inductive Goes (s : Session) (e : Event) (call i : Nat) (r : Resolver) : Site × Stage → Prop
  | scans (purpose : ScanPurpose) (table : TableReference) (params : ScanParameters)
      (taken : e.action = .scan call i purpose table params) (unused : s.calls.get? call = none)
      (known : s.resolvers[i]? = some r) : Goes s e call i r (s.site r, .scan (r.begin purpose table params))
  | scansBatch (table : TableReference) (actions : List FileAction) (start : Int) (last : Option Int)
      (taken : e.action = .scanBatch call i table actions start last) (unused : s.calls.get? call = none)
      (known : s.resolvers[i]? = some r) :
      Goes s e call i r (((s.site r).resolveBatch e.moment table actions start last).map id .scan)
  | reads (path : String) (taken : e.action = .read call i path) (unused : s.calls.get? call = none)
      (known : s.resolvers[i]? = some r) : Goes s e call i r (((s.site r).read e.moment path).map id .read)
  | resumes (reply : Reply) (taken : e.action = .reply call reply) (stage : Stage)
      (before : s.calls.get? call = some ⟨i, stage⟩) (known : s.resolvers[i]? = some r)
      (resumed : (s.site r).resume e.moment stage reply = some went) : Goes s e call i r went

/-- The moves of a session. -/
inductive Move (s : Session) (e : Event) : Session → Prop
  | enters (settings : ResolverSettings) (location mark : String) (issuer : Option Issuer)
      (taken : e.action = .enter settings location mark issuer) :
      Move s e { s with resolvers := s.resolvers ++ [.new settings location mark issuer] }
  | plans (i : Nat) (version : Option Version) (answer : Except Fault TableMetadata) (r : Resolver)
      (taken : e.action = .plan i version answer) (known : s.resolvers[i]? = some r) :
      Move s e { s with resolvers := s.resolvers.set i (r.plan version answer).1 }
  | goes (call i : Nat) (r : Resolver) (went : Site × Stage) (goes : Goes s e call i r went) :
      Move s e (s.record call i went)
  | closes (i : Nat) (r : Resolver) (taken : e.action = .close i) (known : s.resolvers[i]? = some r) :
      Move s e { s with
        cache := r.registered.foldl Cache.release s.cache
        resolvers := s.resolvers.set i { r with registered := [] }
        scans := s.scans.filter (·.1 ≠ i) }
  | sweeps (taken : e.action = .sweep) : Move s e { s with cache := (s.cache.sweep e.moment).1 }

theorem Goes.known {s : Session} (goes : Goes s e call i r went) : s.resolvers[i]? = some r := by
  cases goes <;> assumption

private theorem start_moves {s : Session} {e : Event} {call i : Nat} {stretch : Site → Site × Stage}
    (goes : ∀ r, s.calls.get? call = none → s.resolvers[i]? = some r → Goes s e call i r (stretch (s.site r))) :
    s.start call i stretch = s ∨ Move s e (s.start call i stretch) := by
  unfold start
  split
  · rename_i r unused known
    exact Or.inr (.goes call i r _ (goes r unused known))
  · exact Or.inl rfl

theorem step_moves (s : Session) (e : Event) : s.step e = s ∨ Move s e (s.step e) := by
  cases taken : e.action with
  | enter settings location mark issuer =>
    simp only [step, taken]
    exact Or.inr (.enters _ _ _ _ taken)
  | plan resolver version answer =>
    simp only [step, taken]
    split
    · exact Or.inl rfl
    · rename_i r known
      exact Or.inr (.plans _ _ _ r taken known)
  | scan call resolver purpose table params =>
    simp only [step, taken]
    exact start_moves fun r => .scans purpose table params taken
  | scanBatch call resolver table actions start last =>
    simp only [step, taken]
    exact start_moves fun r => .scansBatch table actions start last taken
  | read call resolver path =>
    simp only [step, taken]
    exact start_moves fun r => .reads path taken
  | reply call answer =>
    simp only [step, taken, resume]
    split
    · exact Or.inl rfl
    · rename_i i stage before
      split
      · exact Or.inl rfl
      · rename_i r known
        split
        · exact Or.inl rfl
        · rename_i went resumed
          exact Or.inr (.goes call i r went (.resumes answer taken stage before known resumed))
  | close resolver =>
    simp only [step, taken, close]
    split
    · exact Or.inl rfl
    · rename_i r known
      exact Or.inr (.closes _ _ taken known)
  | sweep =>
    simp only [step, taken]
    exact Or.inr (.sweeps taken)

/-! What a stretch leaves of the other resolvers and calls. -/

theorem getElem?_set_known {resolvers : List Resolver} {i j : Nat} {r : Resolver} (known : resolvers[i]? = some r)
    (r' : Resolver) : (resolvers.set i r')[j]? = if j = i then some r' else resolvers[j]? := by
  obtain ⟨inside, -⟩ := List.getElem?_eq_some_iff.mp known
  rw [List.getElem?_set]
  grind

theorem record_calls {s : Session} {call i other : Nat} {went : Site × Stage} :
    (s.record call i went).calls.get? other = if other = call then some ⟨i, went.2⟩ else s.calls.get? other :=
  OrderedMap.get?_insert

/-- A call that can go on does so. -/
theorem Goes.step_eq {s : Session} (goes : Goes s e call i r went) : s.step e = s.record call i went := by
  cases goes with
  | scans purpose table params taken unused known | scansBatch table actions first last taken unused known
  | reads path taken unused known => simp only [step, taken, start, unused, known, site]
  | resumes reply taken stage before known resumed => simp only [step, taken, resume, before, known, resumed]

/-- The call that an event is about. -/
def Event.call? (e : Event) : Option Nat :=
  match e.action with
  | .scan call .. | .scanBatch call .. | .read call .. | .reply call _ => some call
  | .enter .. | .plan .. | .close _ | .sweep => none

theorem Goes.call?_eq {s : Session} {e : Event} (goes : Goes s e call i r went) : e.call? = some call := by
  cases goes with
  | scans _ _ _ taken | scansBatch _ _ _ _ taken | reads _ taken | resumes _ taken => simp only [Event.call?, taken]

/-- The reply that a call is given by an event. -/
def Event.replyTo? (e : Event) (call : Nat) : Option Reply :=
  match e.action with
  | .reply other reply => if other = call then some reply else none
  | _ => none

theorem Event.replyTo?_eq_some_iff {e : Event} {call : Nat} {reply : Reply} :
    e.replyTo? call = some reply ↔ e.action = .reply call reply := by
  unfold replyTo?
  split
  · simp_all
  · rename_i unanswered
    exact iff_of_false (by simp) (unanswered call reply)

def Reply.metadata? : Reply → Option (Except Fault TableMetadata)
  | .metadata answer => some answer
  | _ => none

def Reply.signature? : Reply → Option Signature
  | .signature answer => some answer
  | _ => none

/-- The first answer of a kind that a call is given, the latest event first. -/
def firstAnswer (kind : Reply → Option α) (call : Nat) : List Event → Option α
  | [] => none
  | e :: earlier => (firstAnswer kind call earlier).or ((e.replyTo? call).bind kind)

/-- A call stays where it is unless a reply lets it go on. -/
theorem step_call {s : Session} {call i : Nat} {stage : Stage} (before : s.calls.get? call = some ⟨i, stage⟩)
    (e : Event) : (s.step e).calls.get? call = some ⟨i, stage⟩ ∨
      ∃ reply r went, e.replyTo? call = some reply ∧ s.resolvers[i]? = some r ∧
        (s.site r).resume e.moment stage reply = some went ∧ s.step e = s.record call i went := by
  obtain same | move := step_moves s e
  · rw [same]
    exact Or.inl before
  · generalize s.step e = s' at move
    cases move with
    | enters | plans | closes | sweeps => exact Or.inl before
    | goes other j r went goes =>
      by_cases own : call = other
      · subst own
        cases goes with
        | scans _ _ _ _ unused | scansBatch _ _ _ _ _ unused | reads _ _ unused => cases unused.symm.trans before
        | resumes reply taken stage' before' known resumed =>
          cases before'.symm.trans before
          exact Or.inr ⟨reply, r, went, Event.replyTo?_eq_some_iff.mpr taken, known, resumed, rfl⟩
      · exact Or.inl (by rwa [record_calls, if_neg own])

theorem step_stays {s : Session} {e : Event} {call i : Nat} {stage : Stage}
    (before : s.calls.get? call = some ⟨i, stage⟩)
    (deaf : ∀ reply, e.replyTo? call = some reply → ∀ site : Site, site.resume e.moment stage reply = none) :
    (s.step e).calls.get? call = some ⟨i, stage⟩ := by
  obtain same | ⟨reply, r, went, given, -, resumed, -⟩ := step_call before e
  · exact same
  · cases (deaf reply given _).symm.trans resumed

/-- A call stays a call of its resolver. -/
theorem call_stays {s : Session} {call i : Nat} {stage : Stage} (before : s.calls.get? call = some ⟨i, stage⟩)
    (e : Event) : ∃ stage', (s.step e).calls.get? call = some ⟨i, stage'⟩ := by
  obtain same | ⟨reply, r, went, -, -, -, stepped⟩ := step_call before e
  · exact ⟨stage, same⟩
  · exact ⟨went.2, by rw [stepped, record_calls, if_pos rfl]⟩

end SharedTables.Session
