import SharedTables.Profile.Expiration
import SharedTables.Profile.Reader

/-! What the check whether a profile has expired answers. The time of expiration
is the one field that the reader of profiles keeps as it finds it, so the check
is the first to ask what kind of value it is. It takes a value that counts as
absent for no time, and a text that is no time likewise; for any other value
there is no answer. -/
namespace SharedTables.Profile

variable {α β : Type} {value : Json} {profile : Profile} {now : Int}

/-- Whether a profile is what is read in a value, or in a text or bytes that stand for it. -/
inductive ReadFrom (value : Json) (profile : Profile) : Prop
  | value (read : ofJson value = .ok profile)
  | text (s : String) (stands : Json.read s = .ok value) (read : ofText s = .ok profile)
  | bytes (bytes : List UInt8) (cs : List Char) (decoded : Text.decodeBytes? bytes = some cs)
      (stands : Json.readChars cs = .ok value) (read : ofBytes bytes = .ok profile)

/-- Whether a profile with a token was read in a value whose time of expiration
is there, but no text. -/
def Mistimed (value : Json) (profile : Profile) : Prop :=
  profile.kind = .bearer ∧
    ∃ time, value.get? "expirationTime" = some time ∧ time.truthy = true ∧ ∀ s, time ≠ .str s

theorem bind_eq_ok_iff {reading : Except ProfileError α} {next : α → Except ProfileError β} {b : β} :
    reading >>= next = .ok b ↔ ∃ a, reading = .ok a ∧ next a = .ok b := by
  cases reading with
  | error e => simp [bind, Except.bind]
  | ok a => simp [bind, Except.bind]

/-- However a profile is given, it is read in a decoded value. -/
theorem ReadFrom.ofJson_eq (read : ReadFrom value profile) : ofJson value = .ok profile := by
  cases read with
  | value read => exact read
  | text s stands read => rwa [ofText, stands] at read
  | bytes bytes cs decoded stands read =>
    simp only [ofBytes, decoded, stands] at read
    exact read

/-- The time of expiration of a profile is what its value has for it. -/
theorem expiration_of_ofJson {p : BearerProfile} (read : ofJson value = .ok (.bearer p)) :
    p.expiration = (value.get? "expirationTime").getD .null := by
  cases value with
  | obj members =>
    obtain ⟨version, -, read⟩ := bind_eq_ok_iff.mp (show ofMembers members = _ from read)
    obtain ⟨kind, -, read⟩ := bind_eq_ok_iff.mp read
    split at read
    · cases read
    · cases kind with
      | bearer =>
        obtain ⟨endpoint, -, read⟩ := bind_eq_ok_iff.mp read
        obtain ⟨token, -, read⟩ := bind_eq_ok_iff.mp read
        cases read
        rfl
      | client =>
        obtain ⟨endpoint, -, read⟩ := bind_eq_ok_iff.mp read
        obtain ⟨tokenEndpoint, -, read⟩ := bind_eq_ok_iff.mp read
        obtain ⟨clientId, -, read⟩ := bind_eq_ok_iff.mp read
        obtain ⟨clientSecret, -, read⟩ := bind_eq_ok_iff.mp read
        cases read
  | _ => cases read

/-- A time that is there and no text makes the check fail. -/
theorem isExpired_mistimed (read : ofJson value = .ok profile) (mistimed : Mistimed value profile) (now : Int) :
    profile.isExpired now = .error .expirationNotText := by
  obtain ⟨kind, time, found, there, noText⟩ := mistimed
  cases profile with
  | client p => cases kind
  | bearer p =>
    have kept : p.expiration = time := by rw [expiration_of_ofJson read, found, Option.getD_some]
    rw [isExpired, kept, there]
    cases time with
    | str s => exact absurd rfl (noText s)
    | _ => rfl

theorem Mistimed.no_text (mistimed : Mistimed value profile) (s : String) :
    value.get? "expirationTime" ≠ some (.str s) := by
  obtain ⟨-, time, found, -, noText⟩ := mistimed
  rw [found]
  exact mt Option.some.inj (noText s)

/-- The one text that counts as absent is no time. -/
theorem readExpiration?_empty : readExpiration? "" = none := by decide +kernel

/-- The token of a profile expires at the time that its text is read as. -/
theorem isExpired_of_read {p : BearerProfile} {s : String} {t : DateTime} (written : p.expiration = .str s)
    (read : readExpiration? s = some t) : (Profile.bearer p).isExpired now = .ok (decide (t.instant ≤ now)) := by
  have there : s ≠ "" := by
    rintro rfl
    rw [readExpiration?_empty] at read
    cases read
  simp [isExpired, written, Json.truthy, there, read]

/-- Otherwise it answers, and yes exactly if the time is one that has come. -/
theorem isExpired_timed (read : ofJson value = .ok profile) (timed : ¬ Mistimed value profile) (now : Int) :
    ∃ expired, profile.isExpired now = .ok expired ∧
      (expired = true ↔ profile.kind = .bearer ∧ ∃ s t, value.get? "expirationTime" = some (.str s) ∧
        readExpiration? s = some t ∧ t.instant ≤ now) := by
  cases profile with
  | client p => exact ⟨false, rfl, by simp [kind]⟩
  | bearer p =>
    have kept := expiration_of_ofJson read
    cases found : value.get? "expirationTime" with
    | none =>
      rw [found, Option.getD_none] at kept
      exact ⟨false, by rw [isExpired, kept]; rfl, by simp⟩
    | some time =>
      rw [found, Option.getD_some] at kept
      cases there : time.truthy with
      | false =>
        refine ⟨false, by simp [isExpired, kept, there], ?_⟩
        simp only [Bool.false_eq_true, Option.some.injEq, false_iff, not_and, not_exists]
        intro _ s t same seen
        obtain rfl : s = "" := by simpa [same, Json.truthy] using there
        rw [readExpiration?_empty] at seen
        cases seen
      | true =>
        obtain ⟨s, rfl⟩ : ∃ s, time = .str s := Classical.byContradiction fun noText =>
          timed ⟨rfl, time, found, there, fun s same => noText ⟨s, same⟩⟩
        cases seen : readExpiration? s with
        | none => exact ⟨false, by simp [isExpired, kept, there, seen], by simp [seen]⟩
        | some t => exact ⟨_, isExpired_of_read kept seen, by simp [kind, seen]⟩

/-- The check whether a profile has expired answers exactly unless the profile
has a token and its time of expiration is there but no text; then it fails, at
any time. Its answer is yes exactly if the profile has a token and the time of
expiration is a text that can be read as a time, which has come. A text that
cannot be read as one, like no time at all, means that the token does not expire. -/
theorem expiry_check_answers_iff (read : ReadFrom value profile) (now : Int) :
    ((∃ expired, profile.isExpired now = .ok expired) ↔ ¬ Mistimed value profile) ∧
    (Mistimed value profile → profile.isExpired now = .error .expirationNotText) ∧
    (profile.isExpired now = .ok true ↔ profile.kind = .bearer ∧ ∃ s t,
      value.get? "expirationTime" = some (.str s) ∧ readExpiration? s = some t ∧ t.instant ≤ now) ∧
    ∀ s, value.get? "expirationTime" = some (.str s) → readExpiration? s = none →
      profile.isExpired now = .ok false := by
  have decoded := read.ofJson_eq
  by_cases mistimed : Mistimed value profile
  · have failed := isExpired_mistimed decoded mistimed now
    refine ⟨by simp [failed, mistimed], fun _ => failed, by simp [failed, mistimed.no_text], ?_⟩
    exact fun s same => absurd same (mistimed.no_text s)
  · obtain ⟨expired, answered, exact⟩ := isExpired_timed decoded mistimed now
    refine ⟨by simp [answered, mistimed], fun other => absurd other mistimed, by simp [answered, exact], ?_⟩
    intro s same unread
    have standing : expired ≠ true := fun yes => by
      obtain ⟨-, s', t, same', read', -⟩ := exact.mp yes
      obtain rfl := Json.str.inj (Option.some.inj (same.symm.trans same'))
      rw [unread] at read'
      cases read'
    rw [answered, Bool.eq_false_iff.mpr standing]

/-- A profile whose time of expiration is a list has no answer, one whose time
is a text of another kind has one. -/
theorem unreadable_time_does_not_expire :
    let timed (time : Json) : Json := .obj [("shareCredentialsVersion", .int 1),
      ("endpoint", .str "https://sharing.example.com"), ("bearerToken", .str "token"), ("expirationTime", time)]
    let profile (time : Json) : Profile := .bearer ⟨1, "https://sharing.example.com", "token", time⟩
    (∀ time, ReadFrom (timed time) (profile time)) ∧
      (profile (.arr [.str "tomorrow"])).isExpired 0 = .error .expirationNotText ∧
      (profile (.str "tomorrow")).isExpired 0 = .ok false := by
  intro timed profile
  have read (time : Json) : ReadFrom (timed time) (profile time) := .value rfl
  obtain ⟨-, failed, -, -⟩ := expiry_check_answers_iff (read (.arr [.str "tomorrow"])) 0
  obtain ⟨-, -, -, unread⟩ := expiry_check_answers_iff (read (.str "tomorrow")) 0
  have unreadable : readExpiration? "tomorrow" = none := by decide +kernel
  exact ⟨read, failed ⟨rfl, _, rfl, rfl, by simp⟩, unread "tomorrow" rfl unreadable⟩

/-- A number for the time of expiration is accepted, and then there is no answer. -/
theorem numbered_time_has_no_answer : ¬ ∀ value profile now, ReadFrom value profile →
    ∃ expired, profile.isExpired now = .ok expired := by
  intro answers
  obtain ⟨expired, answered⟩ := answers (.obj [("shareCredentialsVersion", .int 1),
    ("endpoint", .str "https://sharing.example.com"), ("bearerToken", .str "token"), ("expirationTime", .int 5)])
    (.bearer ⟨1, "https://sharing.example.com", "token", .int 5⟩) 0 (.value rfl)
  cases answered

end SharedTables.Profile
