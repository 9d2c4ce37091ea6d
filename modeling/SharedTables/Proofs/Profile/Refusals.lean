import SharedTables.ErrorFamily
import SharedTables.Profile.Reader

/-! How the reading of a profile can fail. Every field may hold any value, and
what is wrong with a field is refused as malformed, but for one value of one
field: a type is looked up by name before anyone has asked whether it is one. -/
namespace SharedTables

/-- The family of an error of a profile. An error that is no refusal of the profile has none. -/
def ProfileError.family? : ProfileError → Option ErrorFamily
  | .undecodable | .compoundType | .notAProfile _ | .expirationNotText => none
  | .notJson .. | .notAnObject | .missing _ | .versionNotInteger _ | .versionTooNew _
  | .unsupportedType _ | .wrongVersion _ | .tokenRequired _ => some .validation

namespace Profile

variable {α β : Type} {members : List (String × Json)} {e : ProfileError}

/-- Whether a reading ends well: if it fails, it refuses the profile as malformed. -/
def EndsWell (reading : Except ProfileError α) : Prop :=
  ∀ e, reading = .error e → e.family? = some .validation

/-- Whether a value holds other values. -/
def Holding : Json → Prop
  | .arr items => items ≠ []
  | .obj members => members ≠ []
  | _ => False

/-- Whether the type among some members is a value that holds others, and the
version is one at which the type is looked at. -/
structure CompoundType (members : List (String × Json)) : Prop where
  versioned : ∃ version ≤ newestVersion, Json.member? "shareCredentialsVersion" members = some (.int version)
  typed : ∃ type, Json.member? "type" members = some type ∧ Holding type

/-- Whether a value is an object with a compound type. -/
def CompoundTyped (value : Json) : Prop := ∃ members, value = .obj members ∧ CompoundType members

theorem endsWell_ok (a : α) : EndsWell (.ok a : Except ProfileError α) := nofun

theorem endsWell_error_iff : EndsWell (.error e : Except ProfileError α) ↔ e.family? = some .validation := by
  constructor
  · exact fun well => well e rfl
  · rintro named _ ⟨⟩
    exact named

/-- Readings that end well do so one after the other. -/
theorem EndsWell.bind {reading : Except ProfileError α} {next : α → Except ProfileError β}
    (first : EndsWell reading) (second : ∀ a, EndsWell (next a)) : EndsWell (reading >>= next) := by
  cases reading with
  | error e => exact endsWell_error_iff.mpr (first e rfl)
  | ok a => exact second a

theorem field?_eq_int_iff {name : String} {n : Int} :
    field? name members = some (.int n) ↔ Json.member? name members = some (.int n) := by
  unfold field?
  split <;> simp_all

theorem readVersion_endsWell (members : List (String × Json)) : EndsWell (readVersion members) := by
  unfold readVersion
  split
  · exact endsWell_error_iff.mpr rfl
  · split
    · exact endsWell_error_iff.mpr rfl
    · exact endsWell_ok _
  · exact endsWell_error_iff.mpr rfl

theorem readVersion_ok_iff {version : Int} : readVersion members = .ok version ↔
    version ≤ newestVersion ∧ Json.member? "shareCredentialsVersion" members = some (.int version) := by
  rw [← field?_eq_int_iff]
  unfold readVersion
  split
  · simp_all
  · rename_i found read
    split <;> simp_all <;> omega
  · simp_all

theorem readKind_holding {type : Json} (there : Json.member? "type" members = some type) (holds : Holding type) :
    readKind members = .error .compoundType := by
  cases type with
  | arr items => simp_all [readKind, Holding, Json.truthy, Option.filter]
  | obj inner => simp_all [readKind, Holding, Json.truthy, Option.filter]
  | _ => exact holds.elim

/-- A type that holds no other values is looked up, and refused if there is no kind of that name. -/
theorem readKind_endsWell (plain : ∀ type, Json.member? "type" members = some type → ¬ Holding type) :
    EndsWell (readKind members) := by
  unfold readKind
  split
  · exact endsWell_ok _
  · split
    · exact endsWell_ok _
    · exact endsWell_error_iff.mpr rfl
  · rename_i items found
    obtain ⟨there, present⟩ := Option.filter_eq_some_iff.mp found
    exact absurd (by simpa [Holding, Json.truthy] using present) (plain _ there)
  · rename_i inner found
    obtain ⟨there, present⟩ := Option.filter_eq_some_iff.mp found
    exact absurd (by simpa [Holding, Json.truthy] using present) (plain _ there)
  · exact endsWell_error_iff.mpr rfl

theorem mandatoryText_endsWell (members : List (String × Json)) (name : String) :
    EndsWell (mandatoryText members name) := by
  unfold mandatoryText
  split
  · exact endsWell_ok _
  · exact endsWell_error_iff.mpr rfl

/-- Once version and kind are known, only a field that is missing is refused. -/
theorem readFields_endsWell (kind : ProfileKind) (version : Int) (members : List (String × Json)) :
    EndsWell (readFields kind version members) := by
  cases kind with
  | bearer =>
    refine (mandatoryText_endsWell _ _).bind fun _ => (mandatoryText_endsWell _ _).bind fun _ => ?_
    exact endsWell_ok _
  | client =>
    refine (mandatoryText_endsWell _ _).bind fun _ => (mandatoryText_endsWell _ _).bind fun _ => ?_
    refine (mandatoryText_endsWell _ _).bind fun _ => (mandatoryText_endsWell _ _).bind fun _ => ?_
    exact endsWell_ok _

theorem ofMembers_compound (compound : CompoundType members) : ofMembers members = .error .compoundType := by
  obtain ⟨⟨version, understood, found⟩, type, there, holds⟩ := compound
  have versioned := readVersion_ok_iff.mpr ⟨understood, found⟩
  simp [ofMembers, versioned, readKind_holding there holds, bind, Except.bind]

theorem ofMembers_endsWell (plain : ¬ CompoundType members) : EndsWell (ofMembers members) := by
  unfold ofMembers
  cases versioned : readVersion members with
  | error e => exact endsWell_error_iff.mpr (readVersion_endsWell members e versioned)
  | ok version =>
    -- Only a version that is understood lets the type be looked at.
    have simple : ∀ type, Json.member? "type" members = some type → ¬ Holding type :=
      fun type there holds => plain ⟨⟨version, readVersion_ok_iff.mp versioned⟩, type, there, holds⟩
    refine (readKind_endsWell simple).bind fun kind => ?_
    split
    · exact endsWell_error_iff.mpr rfl
    · exact readFields_endsWell kind version members

theorem ofJson_compoundTyped {value : Json} (compound : CompoundTyped value) :
    ofJson value = .error .compoundType := by
  obtain ⟨members, rfl, compound⟩ := compound
  exact ofMembers_compound compound

theorem ofJson_endsWell_iff {value : Json} : EndsWell (ofJson value) ↔ ¬ CompoundTyped value := by
  constructor
  · intro well compound
    exact nomatch well _ (ofJson_compoundTyped compound)
  · intro plain
    cases value with
    | obj members => exact ofMembers_endsWell fun compound => plain ⟨members, rfl, compound⟩
    | _ => exact endsWell_error_iff.mpr rfl

/-- A text that is no JSON is refused, any other text like the value that it stands for. -/
theorem read_endsWell_iff {read : Except Json.ReadError Json} {source : List Char} :
    EndsWell (match read with
      | .ok value => ofJson value
      | .error e => .error (.notJson e source)) ↔ ∀ value, read = .ok value → ¬ CompoundTyped value := by
  cases read with
  | ok value => simp [ofJson_endsWell_iff]
  | error e => simp [endsWell_error_iff, ProfileError.family?]

/-- A profile, given as a decoded value, as a text or as bytes, is read or
refused as malformed exactly unless it is an object with a compound type, or
the bytes are no text. A compound type is not refused: looking it up fails.
Integers of any length and values nested to any depth are taken; that an
interpreter may set limits to the digits of an integer and to its own stack is
left out. -/
theorem profile_is_read_or_refused_iff (value : Json) (s : String) (bytes : List UInt8) :
    (EndsWell (ofJson value) ↔ ¬ CompoundTyped value) ∧
    (CompoundTyped value → ofJson value = .error .compoundType) ∧
    (EndsWell (ofText s) ↔ ∀ value, Json.read s = .ok value → ¬ CompoundTyped value) ∧
    (EndsWell (ofBytes bytes) ↔ ∃ cs, Text.decodeBytes? bytes = some cs ∧
      ∀ value, Json.readChars cs = .ok value → ¬ CompoundTyped value) := by
  refine ⟨ofJson_endsWell_iff, ofJson_compoundTyped, read_endsWell_iff, ?_⟩
  unfold ofBytes
  cases Text.decodeBytes? bytes with
  | none => simp [endsWell_error_iff, ProfileError.family?]
  | some cs =>
    simp only [Option.some.injEq, exists_eq_left']
    exact read_endsWell_iff

/-- A list that holds the name of a kind is no kind, and yet it is not refused. -/
theorem listed_kind_is_not_refused : ¬ ∀ value, EndsWell (ofJson value) := by
  intro well
  have named := well (.obj [("shareCredentialsVersion", .int 1), ("type", .arr [.str "bearer_token"])]) .compoundType rfl
  exact nomatch named

end Profile
end SharedTables
