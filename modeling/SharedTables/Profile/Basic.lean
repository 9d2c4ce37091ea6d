import SharedTables.Json.Display
import SharedTables.Json.Reader

/-! Credential profiles: what a client needs to know to reach a sharing server. -/
namespace SharedTables

/-- A profile with a token that is sent as it is. -/
structure BearerProfile where
  version : Int
  endpoint : String
  token : String
  /-- When the token expires, as the profile has it. -/
  expiration : Json
  deriving Repr

/-- A profile whose client id and secret are exchanged for a token. -/
structure ClientProfile where
  version : Int
  endpoint : String
  tokenEndpoint : String
  clientId : String
  clientSecret : String
  /-- The scope to ask for, as the profile has it. -/
  scope : Json
  deriving Repr

/-- A credential profile. -/
inductive Profile
  | bearer (profile : BearerProfile)
  | client (profile : ClientProfile)
  deriving Repr

/-- The two kinds of profiles. -/
inductive ProfileKind
  | bearer
  | client
  deriving DecidableEq, Repr

/-- Why a profile is refused or cannot be used. -/
inductive ProfileError
  /-- The bytes are not text. -/
  | undecodable
  | notJson (e : Json.ReadError) (source : List Char)
  | notAnObject
  | missing (field : String)
  | versionNotInteger (value : Json)
  | versionTooNew (version : Int)
  /-- The type of the profile is a list or an object. -/
  | compoundType
  | unsupportedType (type : Json)
  | wrongVersion (kind : ProfileKind)
  | tokenRequired (tokenEndpoint : String)
  /-- Something that is no profile at all; its kind is known. -/
  | notAProfile (kind : String)
  /-- A time of expiration that is neither absent nor text. -/
  | expirationNotText
  deriving Repr

namespace ProfileKind

/-- The name of a kind. -/
def name : ProfileKind → String
  | .bearer => "bearer_token"
  | .client => "oauth_client_credentials"

/-- The kind of a name. -/
def ofName? (s : String) : Option ProfileKind :=
  [ProfileKind.bearer, .client].find? (·.name = s)

/-- The version that a kind of profile has. -/
def version : ProfileKind → Int
  | .bearer => 1
  | .client => 2

end ProfileKind

namespace Profile

/-- The newest version that is understood. -/
def newestVersion : Int := 2

/-- The kind of a profile. -/
def kind : Profile → ProfileKind
  | .bearer _ => .bearer
  | .client _ => .client

/-- The display of a profile, without its secret. -/
def display : Profile → String
  | .bearer p =>
    "BearerTokenProfile(share_credentials_version=" ++ toString p.version ++
      ", endpoint=" ++ Text.quoted p.endpoint ++ ", bearer_token='***', expiration_time=" ++
      p.expiration.display ++ ")"
  | .client p =>
    "OAuthClientCredentialsProfile(share_credentials_version=" ++ toString p.version ++
      ", endpoint=" ++ Text.quoted p.endpoint ++ ", token_endpoint=" ++
      Text.quoted p.tokenEndpoint ++ ", client_id=" ++ Text.quoted p.clientId ++
      ", client_secret='***', scope=" ++ p.scope.display ++ ")"

/-- `auth_headers`: the value of a header that authenticates requests, made of the token of the
profile or else of the token that was exchanged for the client's secret. -/
def authorization (profile : Profile) (accessToken : Option String) : Except ProfileError String :=
  match profile with
  | .bearer p => .ok ("Bearer " ++ p.token)
  | .client p =>
    match accessToken.filter (· ≠ "") with
    | some token => .ok ("Bearer " ++ token)
    | none => .error (.tokenRequired p.tokenEndpoint)

end Profile

/-- The words for an error, where it has any. -/
def ProfileError.message : ProfileError → Option String
  | .undecodable => none
  | .notJson e source => some ("Profile file is not valid JSON: " ++ e.message source)
  | .notAnObject => some "Profile file must contain a JSON object"
  | .missing field => some ("Cannot find the '" ++ field ++ "' field in the profile file")
  | .versionNotInteger value =>
    some ("'shareCredentialsVersion' must be an integer, got: " ++ value.display)
  | .versionTooNew version =>
    some ("'shareCredentialsVersion' in the profile is " ++ toString version ++
      " which is too new. The current release supports version " ++
      toString Profile.newestVersion ++ " and below. Please upgrade to a newer release.")
  | .compoundType => none
  | .unsupportedType type => some ("Unsupported profile type: " ++ type.asText)
  | .wrongVersion kind => some (kind.name ++ " only supports version " ++ toString kind.version)
  | .tokenRequired tokenEndpoint =>
    some (ProfileKind.client.name ++ " profile requires an access token from " ++ tokenEndpoint)
  | .notAProfile kind => some ("Unknown profile type: " ++ kind)
  | .expirationNotText => none

end SharedTables
