import Iems.Lib.Raising
import Iems.Services.Oidc

/-! The token endpoint's reply, down to the bytes of the payload, and which replies the code exchange can read. -/
namespace Iems.Services
open Lib Iems.Core Iems.Security

/-! ### The payload -/

/-- The URL-safe alphabet; the characters that it replaces are read as well. -/
def base64Value (c : CodePoint) : Option Nat :=
  if 0x41 ≤ c.val ∧ c.val ≤ 0x5A then some (c.val - 0x41)
  else if 0x61 ≤ c.val ∧ c.val ≤ 0x7A then some (c.val - 0x61 + 26)
  else if 0x30 ≤ c.val ∧ c.val ≤ 0x39 then some (c.val - 0x30 + 52)
  else if c.val = 0x2B ∨ c.val = 0x2D then some 62
  else if c.val = 0x2F ∨ c.val = 0x5F then some 63
  else none

/-- The place in a quad, the bits not yet written and the padding seen since the last digit. -/
structure QuadState where
  quadPos : Nat := 0
  leftchar : Nat := 0
  pads : Nat := 0
  bytes : Bytes := []

def QuadState.push (s : QuadState) (digit : Nat) : QuadState :=
  match s.quadPos with
  | 0 => { quadPos := 1, leftchar := digit, pads := 0, bytes := s.bytes }
  | 1 =>
    { quadPos := 2, leftchar := digit % 16, pads := 0
      bytes := s.bytes ++ [UInt8.ofNat (s.leftchar * 4 + digit / 16)] }
  | 2 =>
    { quadPos := 3, leftchar := digit % 4, pads := 0
      bytes := s.bytes ++ [UInt8.ofNat (s.leftchar * 16 + digit / 4)] }
  | _ =>
    { quadPos := 0, leftchar := 0, pads := 0
      bytes := s.bytes ++ [UInt8.ofNat (s.leftchar * 64 + digit)] }

def equalsSign : CodePoint := 0x3D

/-- `binascii.a2b_base64` outside its strict mode: other characters are skipped, a full padding ends the data,
and `none` is its error for a quad that the text leaves open. -/
def a2bBase64 : Text → QuadState → Option Bytes
  | [], s => if s.quadPos = 0 then some s.bytes else none
  | c :: rest, s =>
    if c = equalsSign then
      if 2 ≤ s.quadPos then
        if 4 ≤ s.quadPos + (s.pads + 1) then some s.bytes else a2bBase64 rest { s with pads := s.pads + 1 }
      else a2bBase64 rest s
    else
      match base64Value c with
      | none => a2bBase64 rest s
      | some digit => a2bBase64 rest (s.push digit)

/-- `none` where it raises. -/
def b64urlDecode (segment : Text) : Option Bytes :=
  let padded := segment ++ List.replicate ((4 - segment.length % 4) % 4) equalsSign
  if padded.all isAscii then a2bBase64 padded {} else none

/-- `bytes.decode("utf-8")`. -/
def decodeUtf8 (bytes : Bytes) : Option String := String.fromUTF8? ⟨bytes.toArray⟩

section
variable (jsonLoads : String → Option Claim)

/-- The claims of a payload segment. A payload that is no object has no `get`. -/
def payloadClaims (segment : Text) : Option Claims := do
  let bytes ← b64urlDecode segment
  let text ← decodeUtf8 bytes
  match ← jsonLoads text with
  | .object claims => some claims
  | _ => none

def decodePayload (segment : Text) : Except OidcError Claims :=
  match payloadClaims jsonLoads segment with
  | some claims => .ok claims
  | none => .error .raised

variable (lowering : Lowering) (str : Claim → Text) (hmacSha256 : String → String → Bytes)

/-- `exchange_code` from the answer of the token endpoint on, for any JSON body. -/
def exchangeReply (cfg : Settings) (now : ℚ) (statusCode : Nat) (body : Claim) : Except OidcError AuthResult :=
  if 400 ≤ statusCode then .error (.oidc ("Token exchange failed: HTTP " ++ toString statusCode))
  else
    match body with
    | .object fields => finishExchange lowering str (decodePayload jsonLoads) hmacSha256 cfg now ⟨statusCode, fields⟩
    | _ => .error .raised

end

/-- The test's payload without its padding. -/
example : b64urlDecode (Text.ofString "eyJzdWIiOiJ1MSJ9") =
    some [0x7B, 0x22, 0x73, 0x75, 0x62, 0x22, 0x3A, 0x22, 0x75, 0x31, 0x22, 0x7D] := by decide

/-! ### Which replies are readable -/

/-- A success, or the error of the login flow. -/
def ExchangeEnds (outcome : Except OidcError AuthResult) : Prop :=
  (∃ result, outcome = .ok result ∧ result.ok = true) ∨ ∃ message, outcome = .error (.oidc message)

/-- What a loop over the value goes through. -/
def Claim.iterable : Claim → Bool
  | .null | .flag _ | .number _ _ => false
  | .text _ | .list _ | .object _ => true

/-- Roles given as an object keep them under a key of their own, in something to go through. -/
def RolesIterable (raw : Option Claim) : Prop :=
  ∀ fields, raw = some (.object fields) → ∀ roles, Claims.get? fields (Text.ofString "roles") = some roles →
    roles.iterable = true

def directRoles (cfg : Settings) (claims : Claims) : Option Claim :=
  firstTruthy [claims.get? (Text.ofString cfg.oidcRoleClaim), claims.get? (Text.ofString "groups")]

/-- Roles in the first truthy claim, or in an object under the realm's key, or nowhere. -/
def RolesReadable (cfg : Settings) (claims : Claims) : Prop :=
  (directRoles cfg claims ≠ none → RolesIterable (directRoles cfg claims)) ∧
    (directRoles cfg claims = none → ∀ realm, claims.get? (Text.ofString "realm_access") = some realm →
      ∃ fields, realm = .object fields ∧ RolesIterable (Claims.get? fields (Text.ofString "roles")))

def bearerClaim (fields : Claims) : Option Claim :=
  firstTruthy [fields.get? (Text.ofString "id_token"), fields.get? (Text.ofString "access_token")]

/-- The piece after the first dot. -/
def payloadSegment (token : Text) : Option Text :=
  match splitMax 0x2E 2 token with
  | _ :: payload :: _ => some payload
  | _ => none

def ClaimsReadable (str : Claim → Text) (cfg : Settings) (now : ℚ) (claims : Claims) : Prop :=
  RolesReadable cfg claims ∧ (claimedName str claims).any isSurrogate = false ∧
    (intText (expiry cfg none now)).isSome

/-- An object without a token, or with a token that is a string without a payload or with a readable one. -/
def ReplyReadable (jsonLoads : String → Option Claim) (str : Claim → Text) (cfg : Settings) (now : ℚ) (body : Claim) : Prop :=
  ∃ fields, body = .object fields ∧ ∀ token, bearerClaim fields = some token →
    ∃ idToken, token = .text idToken ∧ ∀ payload, payloadSegment idToken = some payload →
      ∃ claims, payloadClaims jsonLoads payload = some claims ∧ ClaimsReadable str cfg now claims

section
variable {jsonLoads : String → Option Claim} {lowering : Lowering} {str : Claim → Text}
  {hmacSha256 : String → String → Bytes} {cfg : Settings} {now : ℚ} {claims : Claims}

theorem raised_not_ends : ¬ ExchangeEnds (.error .raised) := by
  rintro (⟨_, ended, _⟩ | ⟨_, ended⟩) <;> cases ended

variable (str) in
theorem roleNames_ok_iff {raw : Option Claim} : (∃ names, roleNames str raw = .ok names) ↔ RolesIterable raw := by
  constructor
  · rintro ⟨names, read⟩ fields rfl roles held
    unfold roleNames at read
    simp only [held] at read
    cases roles with
    | null => cases read
    | flag _ => cases read
    | number _ _ => cases read
    | text _ => rfl
    | list _ => rfl
    | object _ => rfl
  · intro iterable
    cases raw with
    | none => exact ⟨[], rfl⟩
    | some claim =>
      cases claim with
      | null => exact ⟨_, rfl⟩
      | flag _ => exact ⟨_, rfl⟩
      | number _ _ => exact ⟨_, rfl⟩
      | text _ => exact ⟨_, rfl⟩
      | list _ => exact ⟨_, rfl⟩
      | object fields =>
        cases held : Claims.get? fields (Text.ofString "roles") with
        | none =>
          simp only [roleNames, held]
          exact ⟨_, rfl⟩
        | some roles =>
          have through := iterable fields rfl roles held
          cases roles with
          | null => cases through
          | flag _ => cases through
          | number _ _ => cases through
          | _ =>
            simp only [roleNames, held]
            exact ⟨_, rfl⟩

theorem rawRoles_direct {claim : Claim} (direct : directRoles cfg claims = some claim) :
    rawRoles cfg claims = .ok (some claim) := by
  unfold directRoles at direct
  unfold rawRoles
  rw [direct]

theorem rawRoles_realm (direct : directRoles cfg claims = none) : rawRoles cfg claims = realmRoles claims := by
  unfold directRoles at direct
  unfold rawRoles
  rw [direct]

/-- Roles under the realm's key are read where that holds an object, or nothing. -/
theorem realmReadable_iff :
    (∃ raw names, realmRoles claims = .ok raw ∧ roleNames str raw = .ok names) ↔
      ∀ realm, claims.get? (Text.ofString "realm_access") = some realm →
        ∃ fields, realm = .object fields ∧ RolesIterable (Claims.get? fields (Text.ofString "roles")) := by
  unfold realmRoles
  cases held : claims.get? (Text.ofString "realm_access") with
  | none => exact iff_of_true ⟨none, [], rfl, rfl⟩ (by simp)
  | some realm =>
    cases realm with
    | object fields =>
      constructor
      · rintro ⟨raw, names, same, read⟩ realm equal
        cases same
        cases equal
        exact ⟨fields, rfl, (roleNames_ok_iff str).mp ⟨names, read⟩⟩
      · intro readable
        obtain ⟨fields', equal, iterable⟩ := readable _ rfl
        cases equal
        obtain ⟨names, read⟩ := (roleNames_ok_iff str).mpr iterable
        exact ⟨_, names, rfl, read⟩
    | _ =>
      refine iff_of_false ?_ ?_
      · rintro ⟨raw, names, same, _⟩
        cases same
      · intro readable
        obtain ⟨fields, equal, _⟩ := readable _ rfl
        cases equal

variable (str) in
theorem rolesReadable_iff :
    (∃ raw names, rawRoles cfg claims = .ok raw ∧ roleNames str raw = .ok names) ↔ RolesReadable cfg claims := by
  unfold RolesReadable
  cases direct : directRoles cfg claims with
  | some claim =>
    rw [rawRoles_direct direct]
    constructor
    · rintro ⟨raw, names, same, read⟩
      cases same
      refine ⟨fun _ => (roleNames_ok_iff str).mp ⟨names, read⟩, fun none_ => ?_⟩
      cases none_
    · rintro ⟨iterable, _⟩
      obtain ⟨names, read⟩ := (roleNames_ok_iff str).mpr (iterable (Option.some_ne_none _))
      exact ⟨_, names, rfl, read⟩
  | none =>
    rw [rawRoles_realm direct, realmReadable_iff]
    simp

/-- One of the names, in lower case, is among the configured ones. -/
def grants (lowering : Lowering) (configured : String) (names : List Text) : Bool :=
  (names.map lowering.lower).any fun name => (splitCsv lowering configured).contains name

theorem mapRoles_eq {role : Role} :
    mapRolesFromClaims lowering str cfg claims = .ok role ↔
      ∃ raw names, rawRoles cfg claims = .ok raw ∧ roleNames str raw = .ok names ∧
        role = if grants lowering cfg.oidcAdminRoles names then .admin
          else if grants lowering cfg.oidcOperatorRoles names then .operator
          else .viewer := by
  have listed : ∀ configured (names : List Text),
      ((names.map lowering.lower).any fun name => decide (name ∈ splitCsv lowering configured)) =
        grants lowering configured names := by
    intro configured names
    unfold grants
    simp only [List.contains_eq_mem]
  unfold mapRolesFromClaims
  rw [bind_eq_ok]
  constructor
  · rintro ⟨raw, first, rest⟩
    obtain ⟨names, second, made⟩ := bind_eq_ok.mp rest
    simp only [listed] at made
    cases made
    exact ⟨raw, names, first, second, rfl⟩
  · rintro ⟨raw, names, first, second, rfl⟩
    refine ⟨raw, first, bind_eq_ok.mpr ⟨names, second, ?_⟩⟩
    simp only [listed]
    rfl

variable (lowering str) in
theorem mapRoles_ok_iff : (∃ role, mapRolesFromClaims lowering str cfg claims = .ok role) ↔ RolesReadable cfg claims := by
  rw [← rolesReadable_iff str]
  constructor
  · rintro ⟨role, mapped⟩
    obtain ⟨raw, names, first, second, _⟩ := mapRoles_eq.mp mapped
    exact ⟨raw, names, first, second⟩
  · rintro ⟨raw, names, first, second⟩
    exact ⟨_, mapRoles_eq.mpr ⟨raw, names, first, second, rfl⟩⟩

theorem mapRoles_error {e : OidcError} (stopped : mapRolesFromClaims lowering str cfg claims = .error e) : e = .raised := by
  unfold mapRolesFromClaims at stopped
  rcases bind_eq_error stopped with unread | ⟨raw, _, later⟩
  · unfold rawRoles realmRoles at unread
    split at unread
    · cases unread
    · split at unread
      · cases unread
      · cases unread
      · cases unread
        rfl
  · rcases bind_eq_error later with unread | ⟨names, _, made⟩
    · unfold roleNames at unread
      split at unread
      · cases unread
      · cases unread
      · split at unread <;> cases unread
        rfl
      · cases unread
    · cases made

variable (hmacSha256) in
theorem loginResult_ends_iff {username : Text} (role : Role) :
    ExchangeEnds (loginResult hmacSha256 cfg username role now) ↔
      username.any isSurrogate = false ∧ (intText (expiry cfg none now)).isSome := by
  rw [← @issueToken_isSome hmacSha256 cfg username role none now]
  unfold loginResult
  cases issueToken hmacSha256 cfg username role none now with
  | none => exact iff_of_false raised_not_ends Bool.false_ne_true
  | some token => exact iff_of_true (Or.inl ⟨_, rfl, rfl⟩) rfl

variable (lowering hmacSha256) in
/-- The claims of a payload, on the way to a token. -/
theorem claims_end_iff :
    ExchangeEnds (do
      let role ← mapRolesFromClaims lowering str cfg claims
      loginResult hmacSha256 cfg (claimedName str claims) role now) ↔ ClaimsReadable str cfg now claims := by
  unfold ClaimsReadable
  rw [← mapRoles_ok_iff lowering str]
  cases mapped : mapRolesFromClaims lowering str cfg claims with
  | error e =>
    obtain rfl := mapRoles_error mapped
    refine iff_of_false raised_not_ends ?_
    rintro ⟨⟨role, same⟩, _⟩
    cases same
  | ok role =>
    refine (loginResult_ends_iff hmacSha256 role).trans ?_
    exact (and_iff_right ⟨role, rfl⟩).symm

theorem decodeJwtPayload_eq (decode : Text → Except OidcError Claims) (token : Text) :
    decodeJwtPayload decode token =
      match payloadSegment token with
      | none => .error (.oidc "Malformed JWT")
      | some payload => decode payload := by
  unfold decodeJwtPayload payloadSegment
  rcases splitMax 0x2E 2 token with _ | ⟨_, _ | ⟨_, _⟩⟩ <;> rfl

variable (lowering hmacSha256) in
theorem token_end_iff {idToken : Text} :
    ExchangeEnds (do
      let claims ← decodeJwtPayload (decodePayload jsonLoads) idToken
      let role ← mapRolesFromClaims lowering str cfg claims
      loginResult hmacSha256 cfg (claimedName str claims) role now) ↔
      ∀ payload, payloadSegment idToken = some payload →
        ∃ claims, payloadClaims jsonLoads payload = some claims ∧ ClaimsReadable str cfg now claims := by
  rw [decodeJwtPayload_eq]
  cases payloadSegment idToken with
  | none => exact iff_of_true (Or.inr ⟨_, rfl⟩) (by simp)
  | some payload =>
    dsimp only
    unfold decodePayload
    cases decoded : payloadClaims jsonLoads payload with
    | none =>
      refine iff_of_false raised_not_ends ?_
      intro readable
      obtain ⟨claims, found, _⟩ := readable payload rfl
      rw [decoded] at found
      cases found
    | some claims =>
      refine (claims_end_iff lowering hmacSha256).trans ?_
      constructor
      · rintro readable _ ⟨⟩
        exact ⟨claims, decoded, readable⟩
      · intro readable
        obtain ⟨_, found, readable⟩ := readable payload rfl
        rw [decoded] at found
        cases found
        exact readable

theorem finishExchange_eq {decode : Text → Except OidcError Claims} {statusCode : Nat} (success : statusCode < 400)
    (fields : Claims) :
    finishExchange lowering str decode hmacSha256 cfg now ⟨statusCode, fields⟩ =
      match bearerClaim fields with
      | none => .error (.oidc "No id_token/access_token in token response")
      | some (.text idToken) => do
        let claims ← decodeJwtPayload decode idToken
        let role ← mapRolesFromClaims lowering str cfg claims
        loginResult hmacSha256 cfg (claimedName str claims) role now
      | some _ => .error .raised := by
  unfold finishExchange
  rw [if_neg (Nat.not_le.mpr success)]
  rfl

variable (lowering hmacSha256) in
/-- A success status leads to a result or to the login flow's error exactly for a readable body. -/
theorem exchangeReply_ends_iff {statusCode : Nat} (success : statusCode < 400) {body : Claim} :
    ExchangeEnds (exchangeReply jsonLoads lowering str hmacSha256 cfg now statusCode body) ↔
      ReplyReadable jsonLoads str cfg now body := by
  unfold exchangeReply ReplyReadable
  rw [if_neg (Nat.not_le.mpr success)]
  cases body with
  | object fields =>
    simp only [Claim.object.injEq, exists_eq_left', finishExchange_eq success]
    cases bearerClaim fields with
    | none => exact iff_of_true (Or.inr ⟨_, rfl⟩) (by simp)
    | some token =>
      cases token with
      | text idToken =>
        refine (token_end_iff lowering hmacSha256).trans ?_
        constructor
        · rintro readable _ ⟨⟩
          exact ⟨idToken, rfl, readable⟩
        · intro readable
          obtain ⟨_, same, later⟩ := readable _ rfl
          cases same
          exact later
      | _ =>
        refine iff_of_false raised_not_ends ?_
        intro readable
        obtain ⟨_, same, _⟩ := readable _ rfl
        cases same
  | _ =>
    refine iff_of_false raised_not_ends ?_
    rintro ⟨_, same, _⟩
    cases same

/-! ### The role of a result -/

def configuredRoles (cfg : Settings) : Role → String
  | .admin => cfg.oidcAdminRoles
  | .operator => cfg.oidcOperatorRoles
  | .viewer => cfg.oidcViewerRoles

/-- A name among the claimed roles that the configuration maps to the role. -/
def RoleClaimed (lowering : Lowering) (str : Claim → Text) (cfg : Settings) (claims : Claims) (role : Role) : Prop :=
  ∃ raw names, rawRoles cfg claims = .ok raw ∧ roleNames str raw = .ok names ∧
    ∃ name ∈ names, lowering.lower name ∈ splitCsv lowering (configuredRoles cfg role)

theorem granted_claimed {role : Role} {raw : Option Claim} {names : List Text} (first : rawRoles cfg claims = .ok raw)
    (second : roleNames str raw = .ok names)
    (granted : grants lowering (configuredRoles cfg role) names = true) :
    RoleClaimed lowering str cfg claims role := by
  obtain ⟨entry, member, known⟩ := List.any_eq_true.mp granted
  obtain ⟨name, present, rfl⟩ := List.mem_map.mp member
  exact ⟨raw, names, first, second, name, present, List.contains_iff_mem.mp known⟩

theorem mapRoles_claimed {role : Role} (mapped : mapRolesFromClaims lowering str cfg claims = .ok role) :
    role = .viewer ∨ RoleClaimed lowering str cfg claims role := by
  obtain ⟨raw, names, first, second, made⟩ := mapRoles_eq.mp mapped
  split at made
  · rename_i granted
    obtain rfl := made
    exact Or.inr (granted_claimed first second granted)
  · split at made
    · rename_i granted
      obtain rfl := made
      exact Or.inr (granted_claimed first second granted)
    · exact Or.inl made

/-- The claims that a result was made of. -/
theorem exchangeReply_ok {statusCode : Nat} {body : Claim} {result : AuthResult}
    (exchanged : exchangeReply jsonLoads lowering str hmacSha256 cfg now statusCode body = .ok result) :
    ∃ fields idToken payload claims role, body = .object fields ∧ bearerClaim fields = some (.text idToken) ∧
      payloadSegment idToken = some payload ∧ payloadClaims jsonLoads payload = some claims ∧
      mapRolesFromClaims lowering str cfg claims = .ok role ∧
      loginResult hmacSha256 cfg (claimedName str claims) role now = .ok result := by
  unfold exchangeReply at exchanged
  split at exchanged
  · cases exchanged
  · rename_i success
    split at exchanged
    · rename_i fields
      rw [finishExchange_eq (Nat.not_le.mp success)] at exchanged
      split at exchanged
      · cases exchanged
      · rename_i idToken held
        obtain ⟨claims, decoded, later⟩ := bind_eq_ok.mp exchanged
        obtain ⟨role, mapped, made⟩ := bind_eq_ok.mp later
        rw [decodeJwtPayload_eq] at decoded
        split at decoded
        · cases decoded
        · rename_i payload cut
          unfold decodePayload at decoded
          split at decoded
          · rename_i claims' found
            cases decoded
            exact ⟨fields, idToken, payload, claims, role, rfl, held, cut, found, mapped, made⟩
          · cases decoded
      · cases exchanged
    · cases exchanged

end
end Iems.Services
