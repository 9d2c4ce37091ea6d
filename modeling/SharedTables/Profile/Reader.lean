import SharedTables.Profile.Basic
import SharedTables.Text.Encoding

/-! Profiles read from decoded JSON, from text and from bytes. Fields are checked in a fixed order,
and the first fault is the one that is reported. -/
namespace SharedTables.Profile

/-- The value of a field that is there and not null. -/
def field? (name : String) (members : List (String × Json)) : Option Json :=
  match Json.member? name members with
  | some .null | none => none
  | some value => some value

/-- The version of a profile: an integer that is not too new. -/
def readVersion (members : List (String × Json)) : Except ProfileError Int :=
  match field? "shareCredentialsVersion" members with
  | none => .error (.missing "shareCredentialsVersion")
  | some (.int version) =>
    if newestVersion < version then .error (.versionTooNew version) else .ok version
  | some value => .error (.versionNotInteger value)

/-- The kind of a profile; a type that is absent or empty means a token. -/
def readKind (members : List (String × Json)) : Except ProfileError ProfileKind :=
  match (Json.member? "type" members).filter Json.truthy with
  | none => .ok .bearer
  | some (.str name) =>
    match ProfileKind.ofName? name with
    | some kind => .ok kind
    | none => .error (.unsupportedType (.str name))
  | some (.arr _) | some (.obj _) => .error .compoundType
  | some type => .error (.unsupportedType type)

/-- A mandatory field as text. -/
def mandatoryText (members : List (String × Json)) (name : String) : Except ProfileError String :=
  match field? name members with
  | some value => .ok value.asText
  | none => .error (.missing name)

/-- A field that may hold anything; without it null. -/
def optionalValue (members : List (String × Json)) (name : String) : Json :=
  (Json.member? name members).getD .null

/-- The fields of a profile of a given kind and version, in the order in which they are looked for. -/
def readFields (kind : ProfileKind) (version : Int) (members : List (String × Json)) :
    Except ProfileError Profile :=
  match kind with
  | .bearer => do
    let endpoint ← mandatoryText members "endpoint"
    let token ← mandatoryText members "bearerToken"
    pure (.bearer ⟨version, endpoint, token, optionalValue members "expirationTime"⟩)
  | .client => do
    let endpoint ← mandatoryText members "endpoint"
    let tokenEndpoint ← mandatoryText members "tokenEndpoint"
    let clientId ← mandatoryText members "clientId"
    let clientSecret ← mandatoryText members "clientSecret"
    pure (.client ⟨version, endpoint, tokenEndpoint, clientId, clientSecret,
      optionalValue members "scope"⟩)

/-- `parse_profile`: the profile in the members of an object. Fields that are not known are ignored.
-/
def ofMembers (members : List (String × Json)) : Except ProfileError Profile := do
  let version ← readVersion members
  let kind ← readKind members
  if version ≠ kind.version then .error (.wrongVersion kind)
  else readFields kind version members

/-- The profile in a decoded value. -/
def ofJson : Json → Except ProfileError Profile
  | .obj members => ofMembers members
  | _ => .error .notAnObject

/-- The profile in a text. -/
def ofText (s : String) : Except ProfileError Profile :=
  match Json.read s with
  | .ok value => ofJson value
  | .error e => .error (.notJson e s.toList)

/-- The profile in bytes whose encoding is not declared. -/
def ofBytes (bytes : List UInt8) : Except ProfileError Profile :=
  match Text.decodeBytes? bytes with
  | none => .error .undecodable
  | some cs =>
    match Json.readChars cs with
    | .ok value => ofJson value
    | .error e => .error (.notJson e cs)

/-- `read_profile_file`: the profile in the contents of a file, which are UTF-8 with any line
breaks. -/
def ofFile (contents : List UInt8) : Except ProfileError Profile :=
  match Text.utf8Chars? contents with
  | none => .error .undecodable
  | some cs => ofText (String.ofList (Text.plainBreaks cs))

end SharedTables.Profile
