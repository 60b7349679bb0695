import Iems.Lib.Raising
import Iems.Services.OidcLogin

/-! The request's user, its permissions and the second factor of a settings change. -/
namespace Iems.Api
open Lib Iems.Core Iems.Security Iems.Services

structure CurrentUser where
  username : Text
  role : Role
  token : Text
  deriving DecidableEq

structure HttpError where
  statusCode : Nat
  detail : String
  deriving DecidableEq

def internalError : HttpError := ⟨500, "Internal Server Error"⟩

section
variable (lowering : Lowering) (hmacSha256 : String → String → Bytes)

/-- An empty token counts as none. -/
def extractBearer (authorization : Option Text) : Option Text :=
  match authorization with
  | none => none
  | some header =>
    match splitMax 0x20 1 header with
    | [scheme, token] =>
      if lowering.lower scheme = Text.ofString "bearer" ∧ Text.strip token ≠ [] then some (Text.strip token) else none
    | _ => none

def getCurrentUser (cfg : Settings) (authorization : Option Text) (now : ℚ) : Except HttpError CurrentUser :=
  match extractBearer lowering authorization with
  | none =>
    if !cfg.authEnforce then .ok ⟨Text.ofString "dev", .admin, Text.ofString "dev"⟩
    else .error ⟨401, "Missing bearer token"⟩
  | some token =>
    match verifyToken hmacSha256 cfg token now with
    | none => .error internalError
    | some result =>
      match result.ok, result.username, result.role with
      | true, some username, some role => .ok ⟨username, role, token⟩
      | _, _, _ => .error ⟨401, if result.detail = "" then "Invalid token" else result.detail⟩

end

/-- The identity that a request without a token gets where authentication is off. -/
def isDevUser (cfg : Settings) (user : CurrentUser) : Bool :=
  !cfg.authEnforce && user.username == Text.ofString "dev"

def requireAction (cfg : Settings) (action : String) (user : CurrentUser) : Except HttpError CurrentUser :=
  if isDevUser cfg user then .ok user
  else if !roleAllows user.role action then
    .error ⟨403, "Role '" ++ user.role.value ++ "' cannot perform '" ++ action ++ "'"⟩
  else .ok user

section
variable (users : Dict Text LocalUser) (b32decode : String → Option Bytes) (hmacSha1 : Bytes → Bytes → Bytes)

/-- The body of `require_settings_admin`, behind the check of the action. -/
def checkSecondFactor (cfg : Settings) (user : CurrentUser) (code : Option Text) (now : ℚ) : Except HttpError CurrentUser :=
  if isDevUser cfg user then .ok user
  else
    match verifySettings2fa users b32decode hmacSha1 user.username code now with
    | none => .error internalError
    | some false => .error ⟨401, "Valid X-2FA-Code header required for settings changes"⟩
    | some true => .ok user

variable (lowering : Lowering) (hmacSha256 : String → String → Bytes)

/-- `require_settings_admin` with the dependencies it runs after. -/
def requireSettingsAdmin (cfg : Settings) (authorization code : Option Text) (now : ℚ) : Except HttpError CurrentUser := do
  let user ← getCurrentUser lowering hmacSha256 cfg authorization now
  let user ← requireAction cfg "settings" user
  checkSecondFactor users b32decode hmacSha1 cfg user code now

end

/-! ### Who gets through -/

section
variable {users : Dict Text LocalUser} {b32decode : String → Option Bytes} {hmacSha1 : Bytes → Bytes → Bytes}
  {lowering : Lowering} {hmacSha256 : String → String → Bytes} {cfg : Settings} {user : CurrentUser}
  {authorization code : Option Text} {now : ℚ}

theorem roleAllows_settings {role : Role} : roleAllows role "settings" = true ↔ role = .admin := by
  cases role <;> decide

theorem requireAction_eq (enforced : cfg.authEnforce = true) {action : String} {passed : CurrentUser} :
    requireAction cfg action user = .ok passed ↔ roleAllows user.role action = true ∧ passed = user := by
  unfold requireAction isDevUser
  rw [enforced]
  cases roleAllows user.role action with
  | false => simp
  | true => simp [eq_comm]

theorem checkSecondFactor_eq (enforced : cfg.authEnforce = true) {passed : CurrentUser} :
    checkSecondFactor users b32decode hmacSha1 cfg user code now = .ok passed ↔
      verifySettings2fa users b32decode hmacSha1 user.username code now = some true ∧ passed = user := by
  unfold checkSecondFactor isDevUser
  rw [enforced]
  cases verifySettings2fa users b32decode hmacSha1 user.username code now with
  | none => simp
  | some verified => cases verified <;> simp [eq_comm]

theorem requireSettingsAdmin_eq (enforced : cfg.authEnforce = true) :
    requireSettingsAdmin users b32decode hmacSha1 lowering hmacSha256 cfg authorization code now = .ok user ↔
      getCurrentUser lowering hmacSha256 cfg authorization now = .ok user ∧ user.role = .admin ∧
        verifySettings2fa users b32decode hmacSha1 user.username code now = some true := by
  unfold requireSettingsAdmin
  rw [bind_eq_ok]
  constructor
  · rintro ⟨held, current, rest⟩
    obtain ⟨passed, acted, checked⟩ := bind_eq_ok.mp rest
    obtain ⟨allowed, rfl⟩ := (requireAction_eq enforced).mp acted
    obtain ⟨verified, rfl⟩ := (checkSecondFactor_eq enforced).mp checked
    exact ⟨current, roleAllows_settings.mp allowed, verified⟩
  · rintro ⟨current, admin, verified⟩
    refine ⟨user, current, bind_eq_ok.mpr ⟨user, ?_, ?_⟩⟩
    · exact (requireAction_eq enforced).mpr ⟨roleAllows_settings.mpr admin, rfl⟩
    · exact (checkSecondFactor_eq enforced).mpr ⟨verified, rfl⟩

/-- What the second factor asks: nothing of a local user without a secret, else a valid code. -/
theorem verifySettings2fa_eq {username : Text} :
    verifySettings2fa users b32decode hmacSha1 username code now = some true ↔
      (∃ held, users.get? username = some held ∧ held.totpSecret = none) ∨
        ∃ secret given, enrolledSecret users username = some secret ∧ givenCode code = some given ∧
          verifyTotp b32decode hmacSha1 secret given now = some true := by
  unfold verifySettings2fa enrolledSecret
  cases users.get? username with
  | none => simp
  | some held =>
    cases secret : held.totpSecret with
    | none => simp [secret]
    | some secret =>
      cases givenCode code with
      | none => simp [secret]
      | some given => simp [secret]

end

/-! ### Identities that need no second factor -/

theorem bootstrapUsers_secret (pbkdf2 : String → Bytes → Bytes) (username : Text) :
    ((bootstrapUsers pbkdf2).get? username).map LocalUser.totpSecret =
      if username = Text.ofString "admin" then some (some demoTotpSecret)
      else if username = Text.ofString "operator" then some (some demoTotpSecret)
      else if username = Text.ofString "viewer" then some none
      else none := by
  unfold bootstrapUsers
  rw [Dict.get?_set, Dict.get?_set, Dict.get?_set]
  split
  · rfl
  · split
    · rfl
    · split <;> rfl

/-- The viewer is the one local user without a second factor. -/
theorem secretless_iff (pbkdf2 : String → Bytes → Bytes) {username : Text} :
    (∃ held, (bootstrapUsers pbkdf2).get? username = some held ∧ held.totpSecret = none) ↔
      username = Text.ofString "viewer" := by
  have found : (∃ held, (bootstrapUsers pbkdf2).get? username = some held ∧ held.totpSecret = none) ↔
      ((bootstrapUsers pbkdf2).get? username).map LocalUser.totpSecret = some none := by
    rw [Option.map_eq_some_iff]
  have notAdmin : Text.ofString "viewer" ≠ Text.ofString "admin" := by decide
  have notOperator : Text.ofString "viewer" ≠ Text.ofString "operator" := by decide
  rw [found, bootstrapUsers_secret]
  constructor
  · intro secretless
    split at secretless
    · cases secretless
    · split at secretless
      · cases secretless
      · split at secretless
        · assumption
        · cases secretless
  · rintro rfl
    rw [if_neg notAdmin, if_neg notOperator, if_pos rfl]

/-- A printed token survives the `strip` of the header. -/
def isVisible (c : CodePoint) : Bool := 0x21 ≤ c.val && c.val ≤ 0x7E

theorem strip_visible {text : Text} (visible : text.all isVisible = true) : text.strip = text := by
  refine stripped_self fun c member => ?_
  have range := List.all_eq_true.mp visible c member
  simp only [isVisible, Bool.and_eq_true, decide_eq_true_eq] at range
  have code : (Char.ofNat c.val).toNat = c.val := by
    unfold Char.ofNat
    rw [dif_pos (Or.inl (by omega))]
    rfl
  unfold isSpace
  rw [code]
  simp
  omega

theorem issuedToken_visible {hmacSha256 : String → String → Bytes} {cfg : Settings} {username token : Text} {role : Role}
    {ttlSeconds : Option Int} {issued : ℚ} (visible : username.all isVisible = true)
    (made : issueToken hmacSha256 cfg username role ttlSeconds issued = some token) : token.all isVisible = true := by
  obtain ⟨expS, sig, printed, signed, rfl⟩ := issueToken_eq made
  obtain ⟨message, _, rfl⟩ := Option.map_eq_some_iff.mp signed
  have separator : isVisible colon = true := by decide
  have sigVisible := hexdigest_all (p := isVisible) (by decide) (hmacSha256 cfg.secretKey message)
  have roleVisible : role.text.all isVisible = true := by cases role <;> decide
  have expVisible : expS.all isVisible = true := by
    rw [List.all_eq_true]
    intro c member
    have range := mem_intText printed member
    simp only [isVisible, Bool.and_eq_true, decide_eq_true_eq]
    omega
  simp only [tokenBody, List.all_append, List.all_cons, visible, separator, roleVisible, expVisible, sigVisible,
    Bool.and_self]

/-- A token of a visible name, sent as a bearer header, is the request's user. -/
theorem getCurrentUser_issued {lowering : Lowering} {hmacSha256 : String → String → Bytes} {cfg : Settings}
    {username token : Text} {role : Role} {ttlSeconds : Option Int} {issued now : ℚ}
    (made : issueToken hmacSha256 cfg username role ttlSeconds issued = some token)
    (fresh : now ≤ expiry cfg ttlSeconds issued) (free : colon ∉ username) (visible : username.all isVisible = true) :
    getCurrentUser lowering hmacSha256 cfg (some (Text.ofString "bearer" ++ 0x20 :: token)) now =
      .ok ⟨username, role, token⟩ := by
  obtain ⟨expS, sig, accepted⟩ := (issued_accepted_iff made fresh).mpr free
  have scheme : lowering.lower (Text.ofString "bearer") = Text.ofString "bearer" := by
    rw [lowering.ascii _ (by decide)]
    decide
  have cut : splitMax 0x20 1 (Text.ofString "bearer" ++ 0x20 :: token) = [Text.ofString "bearer", token] :=
    splitMax_field 0 (by decide)
  have unstripped : Text.strip token = token := strip_visible (issuedToken_visible visible made)
  have nonempty : token ≠ [] := by
    rw [accepted.joined]
    simp
  have bearer : extractBearer lowering (some (Text.ofString "bearer" ++ 0x20 :: token)) = some token := by
    simp only [extractBearer, cut, scheme, unstripped, nonempty, ne_eq, not_false_eq_true, and_self, if_true]
  unfold getCurrentUser
  simp only [bearer, verifyToken_accepted accepted]

/-- With authentication enforced, a settings change needs the admin role and a code for an enrolled secret,
exactly for every identity but an admin under the name of the viewer. -/
theorem settings_second_factor_iff (pbkdf2 : String → Bytes → Bytes) (b32decode : String → Option Bytes)
    (hmacSha1 : Bytes → Bytes → Bytes) (lowering : Lowering) (hmacSha256 : String → String → Bytes) (cfg : Settings)
    (enforced : cfg.authEnforce = true) (username : Text) (role : Role) :
    (∀ authorization code now user,
      requireSettingsAdmin (bootstrapUsers pbkdf2) b32decode hmacSha1 lowering hmacSha256 cfg authorization code now =
          .ok user → user.username = username → user.role = role →
        role = .admin ∧ ∃ secret given, enrolledSecret (bootstrapUsers pbkdf2) username = some secret ∧
          code = some given ∧ verifyTotp b32decode hmacSha1 secret given now = some true) ↔
      ¬ (username = Text.ofString "viewer" ∧ role = .admin) := by
  constructor
  · rintro guarded ⟨rfl, rfl⟩
    have printable : (Text.ofString "viewer").any isSurrogate = false ∧ (intText (expiry cfg (some 1) 0)).isSome := by
      refine ⟨by decide, ?_⟩
      have soon : expiry cfg (some 1) 0 = 1 := by simp [expiry, clockSeconds]
      rw [soon]
      decide
    obtain ⟨token, made⟩ := Option.isSome_iff_exists.mp
      ((@issueToken_isSome hmacSha256 _ _ .admin _ _).mpr printable)
    have current := @getCurrentUser_issued lowering _ _ _ _ _ _ _ 0 made (by simp [expiry, clockSeconds]) (by decide)
      (by decide)
    have passed := (@requireSettingsAdmin_eq _ b32decode hmacSha1 _ _ _ _ _ none _ enforced).mpr
      ⟨current, rfl, verifySettings2fa_eq.mpr (Or.inl ((secretless_iff pbkdf2).mpr rfl))⟩
    obtain ⟨_, _, _, _, given, _⟩ := guarded _ none 0 _ passed rfl rfl
    cases given
  · rintro ordinary authorization code now user passed rfl rfl
    obtain ⟨_, admin, verified⟩ := (requireSettingsAdmin_eq enforced).mp passed
    refine ⟨admin, ?_⟩
    rcases verifySettings2fa_eq.mp verified with secretless | ⟨secret, given, enrolled, held, valid⟩
    · exact absurd ⟨(secretless_iff pbkdf2).mp secretless, admin⟩ ordinary
    · exact ⟨secret, given, enrolled, (Option.filter_eq_some_iff.mp held).1, valid⟩

def enforcedCfg : Settings := { oidcCfg with authEnforce := true }

theorem settings_second_factor_iff_admin :
    (∀ authorization code now user,
      requireSettingsAdmin (bootstrapUsers fun _ _ => []) (fun _ => some []) (fun _ _ => List.replicate 20 0)
          asciiLowering oneByte enforcedCfg authorization code now = .ok user →
        user.username = Text.ofString "admin" → user.role = .admin →
        Role.admin = .admin ∧ ∃ secret given,
          enrolledSecret (bootstrapUsers fun _ _ => []) (Text.ofString "admin") = some secret ∧ code = some given ∧
            verifyTotp (fun _ => some []) (fun _ _ => List.replicate 20 0) secret given now = some true) ↔
      ¬ (Text.ofString "admin" = Text.ofString "viewer" ∧ Role.admin = .admin) :=
  settings_second_factor_iff _ _ _ asciiLowering oneByte enforcedCfg rfl (Text.ofString "admin") .admin

/-- The claims of an administrator whom the identity provider calls viewer. -/
def viewerClaims : Claims :=
  [(Text.ofString "preferred_username", .text (Text.ofString "viewer")),
    (Text.ofString "roles", .list [.text (Text.ofString "iems-admin")])]

def viewerReply : TokenReply := ⟨200, [(Text.ofString "id_token", .text (Text.ofString "header.payload.sig"))]⟩

theorem viewer_logs_in :
    LogsIn asciiLowering (fun _ => []) (fun _ => .ok viewerClaims) oneByte (bootstrapUsers fun _ _ => []) (fun _ _ => [])
      (fun _ => none) (fun _ _ => []) enforcedCfg (Text.ofString "viewer") .admin := by
  have identity : (finishExchange asciiLowering (fun _ => []) (fun _ => .ok viewerClaims) oneByte enforcedCfg 0
      viewerReply).toOption.map (fun result => (result.username, result.role)) =
        some (some (Text.ofString "viewer"), some .admin) := by decide +kernel
  cases exchanged : finishExchange asciiLowering (fun _ => []) (fun _ => .ok viewerClaims) oneByte enforcedCfg 0
      viewerReply with
  | error _ =>
    rw [exchanged] at identity
    cases identity
  | ok result =>
    rw [exchanged] at identity
    obtain ⟨name, role⟩ := Prod.mk.inj (Option.some.inj identity)
    exact .oidc 0 viewerReply result exchanged name role

/-- The settings change of that administrator passes without any code. -/
theorem viewer_admin_unguarded :
    ¬ ∀ (pbkdf2 : String → Bytes → Bytes) (b32decode : String → Option Bytes) (hmacSha1 : Bytes → Bytes → Bytes)
        (lowering : Lowering) (str : Claim → Text) (decodePayload : Text → Except OidcError Claims)
        (hmacSha256 : String → String → Bytes) (cfg : Settings), cfg.authEnforce = true →
      ∀ username role, LogsIn lowering str decodePayload hmacSha256 (bootstrapUsers pbkdf2) pbkdf2 b32decode hmacSha1 cfg
          username role →
        ∀ authorization code now user,
          requireSettingsAdmin (bootstrapUsers pbkdf2) b32decode hmacSha1 lowering hmacSha256 cfg authorization code now =
              .ok user → user.username = username → user.role = role →
            role = .admin ∧ ∃ secret given, enrolledSecret (bootstrapUsers pbkdf2) username = some secret ∧
              code = some given ∧ verifyTotp b32decode hmacSha1 secret given now = some true := by
  intro guarded
  have shown : (requireSettingsAdmin (bootstrapUsers fun _ _ => []) (fun _ => none) (fun _ _ => []) asciiLowering oneByte
      enforcedCfg (some (Text.ofString "Bearer viewer:admin:3600:5a")) none 0).toOption.map
        (fun user => (user.username, user.role)) = some (Text.ofString "viewer", .admin) := by decide +kernel
  cases passed : requireSettingsAdmin (bootstrapUsers fun _ _ => []) (fun _ => none) (fun _ _ => []) asciiLowering oneByte
      enforcedCfg (some (Text.ofString "Bearer viewer:admin:3600:5a")) none 0 with
  | error _ =>
    rw [passed] at shown
    cases shown
  | ok user =>
    rw [passed] at shown
    obtain ⟨name, role⟩ := Prod.mk.inj (Option.some.inj shown)
    obtain ⟨_, _, _, _, given, _⟩ := guarded (fun _ _ => []) (fun _ => none) (fun _ _ => []) asciiLowering (fun _ => [])
      (fun _ => .ok viewerClaims) oneByte enforcedCfg rfl _ _ viewer_logs_in _ none 0 user passed name role
    cases given

end Iems.Api
