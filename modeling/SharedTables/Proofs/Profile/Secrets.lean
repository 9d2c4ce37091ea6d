import SharedTables.Profile.Expiration
import SharedTables.Profile.Reader
import SharedTables.Proofs.Json.Members

/-! What depends on the secrets of a profile. Of two objects that differ only in
their secrets both are refused, for the same reason, or both are read; and what
is read differs in the secret itself and in the header that carries it. -/
namespace SharedTables.Profile

variable {α : Type} {members members' : List (String × Json)} {name : String}

/-- The fields that hold secrets. -/
def secretFields : List String := ["bearerToken", "clientSecret"]

/-- Whether two objects differ only in the values of their secrets, where a
secret that is there in one is there in the other. -/
structure SameButSecrets (members members' : List (String × Json)) : Prop where
  shown : ∀ name ∉ secretFields, Json.member? name members = Json.member? name members'
  hidden : ∀ name ∈ secretFields, field? name members = none ↔ field? name members' = none

/-- A profile with its secret left out. -/
def withoutSecret : Profile → Profile
  | .bearer p => .bearer { p with token := "" }
  | .client p => .client { p with clientSecret := "" }

/-! What is shown of a profile is shown without its secret. -/

theorem kind_withoutSecret (p : Profile) : p.withoutSecret.kind = p.kind := by
  cases p <;> rfl

theorem display_withoutSecret (p : Profile) : p.withoutSecret.display = p.display := by
  cases p <;> rfl

theorem isExpired_withoutSecret (p : Profile) (now : Int) : p.withoutSecret.isExpired now = p.isExpired now := by
  cases p <;> rfl

/-- The secret of a client is not what it authenticates requests with. -/
theorem authorization_withoutSecret {p : Profile} (client : p.kind = .client) (accessToken : Option String) :
    p.withoutSecret.authorization accessToken = p.authorization accessToken := by
  cases p with
  | bearer p => cases client
  | client p => rfl

/-- Whether two readings end alike, but for the secret of what is read. -/
def ReadAlike (reading reading' : Except ProfileError Profile) : Prop :=
  reading.map withoutSecret = reading'.map withoutSecret

theorem ReadAlike.bind {reading : Except ProfileError α} {next next' : α → Except ProfileError Profile}
    (alike : ∀ a, ReadAlike (next a) (next' a)) : ReadAlike (reading >>= next) (reading >>= next') := by
  cases reading with
  | error e => rfl
  | ok a => exact alike a

/-! Each check of the reader finds the same in both objects. -/

namespace SameButSecrets

variable (alike : SameButSecrets members members')
include alike

theorem field?_eq (shown : name ∉ secretFields) : field? name members = field? name members' := by
  rw [field?, field?, alike.shown name shown]

theorem readVersion_eq : readVersion members = readVersion members' := by
  rw [readVersion, readVersion, alike.field?_eq (by decide)]

theorem readKind_eq : readKind members = readKind members' := by
  rw [readKind, readKind, alike.shown "type" (by decide)]

theorem mandatoryText_eq (shown : name ∉ secretFields) : mandatoryText members name = mandatoryText members' name := by
  rw [mandatoryText, mandatoryText, alike.field?_eq shown]

theorem optionalValue_eq (shown : name ∉ secretFields) : optionalValue members name = optionalValue members' name := by
  rw [optionalValue, optionalValue, alike.shown name shown]

/-- A secret is missing from both objects or from none, and what follows may not
depend on what it is. -/
theorem readSecret (secret : name ∈ secretFields) {next : String → Except ProfileError Profile}
    (blind : ∀ s s', ReadAlike (next s) (next s')) :
    ReadAlike (mandatoryText members name >>= next) (mandatoryText members' name >>= next) := by
  have both := alike.hidden name secret
  unfold mandatoryText
  cases found : field? name members with
  | none =>
    rw [both.mp found]
    rfl
  | some value =>
    obtain ⟨value', found'⟩ := Option.ne_none_iff_exists'.mp (mt both.mpr (by simp [found]))
    rw [found']
    exact blind _ _

theorem readFields_alike (kind : ProfileKind) (version : Int) :
    ReadAlike (readFields kind version members) (readFields kind version members') := by
  have endpoint := alike.mandatoryText_eq (show "endpoint" ∉ secretFields by decide)
  cases kind with
  | bearer =>
    rw [readFields, readFields, endpoint, alike.optionalValue_eq (show "expirationTime" ∉ secretFields by decide)]
    exact .bind fun _ => alike.readSecret (by decide) fun _ _ => rfl
  | client =>
    rw [readFields, readFields, endpoint, alike.mandatoryText_eq (show "tokenEndpoint" ∉ secretFields by decide),
      alike.mandatoryText_eq (show "clientId" ∉ secretFields by decide),
      alike.optionalValue_eq (show "scope" ∉ secretFields by decide)]
    exact .bind fun _ => .bind fun _ => .bind fun _ => alike.readSecret (by decide) fun _ _ => rfl

/-- The checks of version and kind find the same, and so do those of the fields. -/
theorem ofMembers_alike : ReadAlike (ofMembers members) (ofMembers members') := by
  rw [ofMembers, ofMembers, alike.readVersion_eq, alike.readKind_eq]
  refine .bind fun version => .bind fun kind => ?_
  split
  · rfl
  · exact alike.readFields_alike kind version

end SameButSecrets

/-- Of two objects that differ only in the values of their secrets both are
refused for the same reason, or both are read as profiles of one kind that are
displayed alike, expire alike and, if the secret is that of a client, authenticate
requests alike. But for the secret, they are the same profile. -/
theorem secrets_do_not_show (alike : SameButSecrets members members') :
    (∃ e, ofJson (.obj members) = .error e ∧ ofJson (.obj members') = .error e) ∨
      ∃ p p', ofJson (.obj members) = .ok p ∧ ofJson (.obj members') = .ok p' ∧
        p.kind = p'.kind ∧ p.display = p'.display ∧ (∀ now, p.isExpired now = p'.isExpired now) ∧
        (p.kind = .client → ∀ accessToken, p.authorization accessToken = p'.authorization accessToken) ∧
        p.withoutSecret = p'.withoutSecret := by
  have read := alike.ofMembers_alike
  unfold ReadAlike at read
  cases first : ofMembers members with
  | error e =>
    cases second : ofMembers members' with
    | error e' =>
      rw [first, second] at read
      cases read
      exact .inl ⟨e, first, second⟩
    | ok p' => simp [first, second, Except.map] at read
  | ok p =>
    cases second : ofMembers members' with
    | error e' => simp [first, second, Except.map] at read
    | ok p' =>
      rw [first, second] at read
      have same : p.withoutSecret = p'.withoutSecret := Except.ok.inj read
      have kinds : p.kind = p'.kind := by rw [← kind_withoutSecret p, same, kind_withoutSecret]
      refine .inr ⟨p, p', first, second, kinds, ?_, fun now => ?_, fun client accessToken => ?_, same⟩
      · rw [← display_withoutSecret p, same, display_withoutSecret]
      · rw [← isExpired_withoutSecret p, same, isExpired_withoutSecret]
      · rw [← authorization_withoutSecret client, same, authorization_withoutSecret (kinds ▸ client)]

/-- A client whose secret is renewed, by a value of another kind; the secret of
the other kind of profile is null in one object and not there in the other. -/
theorem renewed_secret_does_not_show :
    let client : List (String × Json) := [("shareCredentialsVersion", .int 2),
      ("type", .str "oauth_client_credentials"), ("endpoint", .str "https://sharing.example.com"),
      ("tokenEndpoint", .str "https://token.example.com"), ("clientId", .str "reader")]
    let before := client ++ [("clientSecret", .str "old"), ("bearerToken", .null)]
    let after := client ++ [("clientSecret", .arr [.int 7])]
    SameButSecrets before after ∧
      ∃ p p', ofJson (.obj before) = .ok p ∧ ofJson (.obj after) = .ok p' ∧ p.display = p'.display ∧
        ∀ accessToken, p.authorization accessToken = p'.authorization accessToken := by
  intro client before after
  have alike : SameButSecrets before after := by
    constructor
    · intro name shown
      obtain ⟨noToken, noSecret⟩ : name ≠ "bearerToken" ∧ name ≠ "clientSecret" := by simpa [secretFields] using shown
      rw [Json.member?_unknown noSecret.symm, Json.member?_unknown noSecret.symm, Json.member?_unknown noToken.symm]
    · have none_has : field? "bearerToken" before = none ↔ field? "bearerToken" after = none := by decide
      have both_have : field? "clientSecret" before = none ↔ field? "clientSecret" after = none := by decide
      simpa [secretFields] using ⟨none_has, both_have⟩
  obtain ⟨e, refused, -⟩ | ⟨p, p', first, second, -, shown, -, sent, -⟩ := secrets_do_not_show alike
  · cases refused
  · refine ⟨alike, p, p', first, second, shown, sent ?_⟩
    cases first
    rfl

end SharedTables.Profile
