import Iems.Lib.Tickets
import Iems.Services.Users

/-! Login through the identity provider: pending states, the code exchange and the mapped identity. -/
namespace Iems.Services
open Lib Iems.Core Iems.Security

/-- A JSON value of the claims. -/
inductive Claim where
  | null
  | flag (value : Bool)
  | number (nonzero : Bool) (shown : Text)
  | text (value : Text)
  | list (items : List Claim)
  | object (fields : List (Text × Claim))

def Claim.truthy : Claim → Bool
  | .null => false
  | .flag value => value
  | .number nonzero _ => nonzero
  | .text value => !value.isEmpty
  | .list items => !items.isEmpty
  | .object fields => !fields.isEmpty

abbrev Claims := List (Text × Claim)

/-- `claims.get(key)`: the last of several values of one key. -/
def Claims.get? (claims : Claims) (key : Text) : Option Claim :=
  (claims.reverse.find? fun field => field.1 == key).map Prod.snd

/-- The first truthy claim of an `or` chain. -/
def firstTruthy (claims : List (Option Claim)) : Option Claim := (claims.filterMap id).find? Claim.truthy

/-- `str.lower`, of which the model uses the ASCII letters. -/
structure Lowering where
  lower : Text → Text
  ascii : ∀ text : Text, text.all isAscii = true →
    lower text = text.map fun c => if 0x41 ≤ c.val ∧ c.val ≤ 0x5A then c + 0x20 else c

def asciiLowering : Lowering where
  lower := fun text => text.map fun c => if 0x41 ≤ c.val ∧ c.val ≤ 0x5A then c + 0x20 else c
  ascii := fun _ _ => rfl

inductive OidcError where
  | oidc (message : String)
  | raised
  deriving DecidableEq

structure OidcDiscovery where
  authorizationEndpoint : String
  tokenEndpoint : String
  issuer : String

/-- The authorize URL, by its base and its query. -/
structure AuthorizeRequest where
  authBase : String
  clientId : String
  redirectUri : String
  scope : String
  state : Text
  codeChallenge : Text

/-- A request to the token endpoint. -/
structure TokenPost where
  tokenUrl : String
  code : Text
  redirectUri : String
  clientId : String
  codeVerifier : Text
  auth : Option (String × String)
  deriving DecidableEq

structure TokenReply where
  statusCode : Nat
  body : Claims

def keycloakPath : String := "/protocol/openid-connect/auth"

def rstripSlash (url : String) : String := String.ofList (url.toList.reverse.dropWhile (· = '/')).reverse

section
variable (lowering : Lowering) (str : Claim → Text) (decodePayload : Text → Except OidcError Claims)
  (challenge : Text → Text) (hmacSha256 : String → String → Bytes)

/-- `str(claim)`. -/
def Claim.shown : Claim → Text
  | .text value => value
  | claim => str claim

def splitCsv (value : String) : List Text := (commaList value).map fun entry => lowering.lower (Text.ofString entry)

/-- `claims.get("realm_access", {}).get("roles")`: an error where the claim is no object. -/
def realmRoles (claims : Claims) : Except OidcError (Option Claim) :=
  match claims.get? (Text.ofString "realm_access") with
  | none => .ok none
  | some (.object fields) => .ok (Claims.get? fields (Text.ofString "roles"))
  | some _ => .error .raised

def rawRoles (cfg : Settings) (claims : Claims) : Except OidcError (Option Claim) :=
  match firstTruthy [claims.get? (Text.ofString cfg.oidcRoleClaim), claims.get? (Text.ofString "groups")] with
  | some claim => .ok (some claim)
  | none => realmRoles claims

/-- The role names; an object's roles are iterated over, which raises for some values. -/
def roleNames : Option Claim → Except OidcError (List Text)
  | some (.text name) => .ok [name]
  | some (.list items) => .ok (items.map (Claim.shown str))
  | some (.object fields) =>
    match Claims.get? fields (Text.ofString "roles") with
    | none => .ok []
    | some (.list items) => .ok (items.map (Claim.shown str))
    | some (.text name) => .ok (name.map fun c => [c])
    | some (.object inner) => .ok (inner.map Prod.fst).dedup
    | some _ => .error .raised
  | _ => .ok []

def mapRolesFromClaims (cfg : Settings) (claims : Claims) : Except OidcError Role := do
  let raw ← rawRoles cfg claims
  let names ← roleNames str raw
  let normalized := names.map lowering.lower
  let granted (roles : String) : Bool := normalized.any fun name => name ∈ splitCsv lowering roles
  return if granted cfg.oidcAdminRoles then .admin
    else if granted cfg.oidcOperatorRoles then .operator
    else .viewer

def claimedName (claims : Claims) : Text :=
  match firstTruthy [claims.get? (Text.ofString "preferred_username"), claims.get? (Text.ofString "email"),
      claims.get? (Text.ofString "sub")] with
  | some claim => claim.shown str
  | none => Text.ofString "oidc-user"

/-- The token that a login hands out. -/
def loginResult (cfg : Settings) (username : Text) (role : Role) (now : ℚ) : Except OidcError AuthResult :=
  match issueToken hmacSha256 cfg username role none now with
  | none => .error .raised
  | some token => .ok { ok := true, username := some username, role := some role, token := some token }

def decodeJwtPayload (token : Text) : Except OidcError Claims :=
  match splitMax 0x2E 2 token with
  | _ :: payload :: _ => decodePayload payload
  | _ => .error (.oidc "Malformed JWT")

/-- The rest of `exchange_code`, once the token endpoint has answered. -/
def finishExchange (cfg : Settings) (now : ℚ) (reply : TokenReply) : Except OidcError AuthResult :=
  if 400 ≤ reply.statusCode then .error (.oidc ("Token exchange failed: HTTP " ++ toString reply.statusCode))
  else
    match firstTruthy [reply.body.get? (Text.ofString "id_token"), reply.body.get? (Text.ofString "access_token")] with
    | none => .error (.oidc "No id_token/access_token in token response")
    | some (.text idToken) => do
      let claims ← decodeJwtPayload decodePayload idToken
      let role ← mapRolesFromClaims lowering str cfg claims
      loginResult hmacSha256 cfg (claimedName str claims) role now
    | some _ => .error .raised

def devLogin (cfg : Settings) (username role : Text) (now : ℚ) : Except OidcError AuthResult :=
  if !(cfg.oidcEnabled && cfg.oidcDevBypass && cfg.appDebug) then .error (.oidc "OIDC dev login disabled")
  else
    match Role.ofValue? (lowering.lower role) with
    | none => .error (.oidc "role must be viewer|operator|admin")
    | some mapped => loginResult hmacSha256 cfg username mapped now

/-- The identities that some login path hands a token to. -/
inductive LogsIn (users : Dict Text LocalUser) (pbkdf2 : String → Bytes → Bytes) (b32decode : String → Option Bytes)
    (hmacSha1 : Bytes → Bytes → Bytes) (cfg : Settings) (username : Text) (role : Role) : Prop
  | password (secret : Text) (totpCode : Option Text) (now : ℚ) (result : AuthResult)
      (login : authenticate users pbkdf2 hmacSha256 b32decode hmacSha1 cfg username secret totpCode false now = some result)
      (ok : result.ok = true) (held : result.role = some role)
  | oidc (now : ℚ) (reply : TokenReply) (result : AuthResult)
      (login : finishExchange lowering str decodePayload hmacSha256 cfg now reply = .ok result)
      (name : result.username = some username) (held : result.role = some role)
  | dev (requested : Text) (now : ℚ) (result : AuthResult)
      (login : devLogin lowering hmacSha256 cfg username requested now = .ok result) (held : result.role = some role)

/-! ### The table of pending states -/

/-- A callback between its awaits. -/
structure Flight where
  code : Text
  state : Text
  verifier : Text
  deriving DecidableEq

structure OidcState where
  pending : Dict Text Text := .empty
  taken : List (Text × Text) := []
  discovering : List Flight := []
  exchanging : List Flight := []
  posts : List (Flight × TokenPost) := []
  results : List (Except OidcError AuthResult) := []

/-- `state` and `verifier` are what the login start draws; `reply` is what the awaited request returns or raises. -/
inductive OidcEvent where
  | beginLogin (state verifier : Text)
  | beginLoginDiscovered (state verifier : Text) (reply : Except String OidcDiscovery)
  | callback (code state : Text)
  | discovered (flight : Nat) (reply : Except String OidcDiscovery)
  | answered (flight : Nat) (reply : Except Unit TokenReply) (now : ℚ)

def discover (cfg : Settings) (reply : Except String OidcDiscovery) : Except String OidcDiscovery :=
  if cfg.oidcIssuer = "" then .error "OIDC_ISSUER is required when OIDC is enabled" else reply

def authorizeRequest (cfg : Settings) (authBase : String) (state verifier : Text) : AuthorizeRequest :=
  { authBase := authBase
    clientId := cfg.oidcClientId
    redirectUri := cfg.oidcRedirectUri
    scope := cfg.oidcScopes
    state := state
    codeChallenge := challenge verifier }

def beginLogin (cfg : Settings) (pending : Dict Text Text) (state verifier : Text) :
    Except OidcError (Dict Text Text × AuthorizeRequest) :=
  if !cfg.oidcEnabled then .error (.oidc "OIDC is disabled")
  else if cfg.oidcIssuer = "" ∨ cfg.oidcClientId = "" then .error (.oidc "OIDC_ISSUER and OIDC_CLIENT_ID required")
  else .ok (pending.set state verifier,
    authorizeRequest challenge cfg (rstripSlash cfg.oidcIssuer ++ keycloakPath) state verifier)

/-- The state is pending before the discovery is awaited; the rest reads nothing that is shared. -/
def beginLoginDiscovered (cfg : Settings) (pending : Dict Text Text) (state verifier : Text)
    (reply : Except String OidcDiscovery) : Dict Text Text × AuthorizeRequest :=
  let authBase :=
    match discover cfg reply with
    | .ok disc => disc.authorizationEndpoint
    | .error _ => rstripSlash cfg.oidcIssuer ++ keycloakPath
  (pending.set state verifier, authorizeRequest challenge cfg authBase state verifier)

/-- `exchange_code` up to its first await. -/
def takeState (s : OidcState) (code state : Text) : OidcState :=
  match s.pending.get? state with
  | none => { s with results := s.results ++ [.error (.oidc "Invalid or expired OIDC state")] }
  | some verifier =>
    { s with
      pending := s.pending.erase state
      taken := s.taken ++ [(state, verifier)]
      discovering := s.discovering ++ [⟨code, state, verifier⟩] }

def tokenPost (cfg : Settings) (tokenUrl : String) (flight : Flight) : TokenPost :=
  { tokenUrl := tokenUrl
    code := flight.code
    redirectUri := cfg.oidcRedirectUri
    clientId := cfg.oidcClientId
    codeVerifier := flight.verifier
    auth := if cfg.oidcClientSecret = "" then none else some (cfg.oidcClientId, cfg.oidcClientSecret) }

/-- From the discovery to the request to the token endpoint. -/
def postCode (cfg : Settings) (s : OidcState) (index : Nat) (reply : Except String OidcDiscovery) : OidcState :=
  match s.discovering[index]? with
  | none => s
  | some flight =>
    let s := { s with discovering := s.discovering.eraseIdx index }
    match discover cfg reply with
    | .error message => { s with results := s.results ++ [.error (.oidc ("OIDC discovery failed: " ++ message))] }
    | .ok disc =>
      { s with
        exchanging := s.exchanging ++ [flight]
        posts := s.posts ++ [(flight, tokenPost cfg disc.tokenEndpoint flight)] }

def takeReply (cfg : Settings) (s : OidcState) (index : Nat) (reply : Except Unit TokenReply) (now : ℚ) : OidcState :=
  match s.exchanging[index]? with
  | none => s
  | some _ =>
    let outcome :=
      match reply with
      | .error _ => .error .raised
      | .ok reply => finishExchange lowering str decodePayload hmacSha256 cfg now reply
    { s with exchanging := s.exchanging.eraseIdx index, results := s.results ++ [outcome] }

def oidcStep (cfg : Settings) (s : OidcState) : OidcEvent → OidcState
  | .beginLogin state verifier =>
    match beginLogin challenge cfg s.pending state verifier with
    | .error _ => s
    | .ok (pending, _) => { s with pending := pending }
  | .beginLoginDiscovered state verifier reply =>
    { s with pending := (beginLoginDiscovered challenge cfg s.pending state verifier reply).1 }
  | .callback code state => takeState s code state
  | .discovered index reply => postCode cfg s index reply
  | .answered index reply now => takeReply lowering str decodePayload hmacSha256 cfg s index reply now

end
end Iems.Services
