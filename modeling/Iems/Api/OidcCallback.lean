import Iems.Api.SecondFactor
import Iems.Services.TokenReply

/-! The end of a login through the identity provider, for every body of the token endpoint. -/
namespace Iems.Api
open Lib Iems.Core Iems.Security Iems.Services

/-- `oidc_callback` over what the exchange returned or raised. -/
def oidcCallback (cfg : Settings) (exchanged : Except OidcError AuthResult) : Except HttpError TokenResponse :=
  if !cfg.oidcEnabled then .error ⟨404, "OIDC disabled"⟩
  else
    match exchanged with
    | .error (.oidc message) => .error ⟨401, message⟩
    | .error .raised => .error internalError
    | .ok result =>
      match result.token, result.role with
      | some token, some role => .ok ⟨token, role.value, false⟩
      | _, _ => .error internalError

section
variable {jsonLoads : String → Option Claim} {lowering : Lowering} {str : Claim → Text}
  {hmacSha256 : String → String → Bytes} {cfg : Settings} {now : ℚ} {statusCode : Nat} {body : Claim}

theorem loginResult_full {username : Text} {role : Role} {result : AuthResult}
    (made : loginResult hmacSha256 cfg username role now = .ok result) :
    result.role = some role ∧ result.token.isSome := by
  unfold loginResult at made
  split at made
  · cases made
  · cases made
    exact ⟨rfl, rfl⟩

/-- An exchange that ends sends the client a token or a 401. -/
theorem oidcCallback_settles (enabled : cfg.oidcEnabled = true)
    (ends : ExchangeEnds (exchangeReply jsonLoads lowering str hmacSha256 cfg now statusCode body)) :
    Settles (oidcCallback cfg (exchangeReply jsonLoads lowering str hmacSha256 cfg now statusCode body)) := by
  unfold oidcCallback
  rw [enabled]
  rcases ends with ⟨result, exchanged, _⟩ | ⟨message, refused⟩
  · obtain ⟨_, _, _, _, role, _, _, _, _, _, made⟩ := exchangeReply_ok exchanged
    obtain ⟨held, full⟩ := loginResult_full made
    obtain ⟨token, issued⟩ := Option.isSome_iff_exists.mp full
    rw [exchanged]
    exact Or.inl ⟨⟨token, role.value, false⟩, by simp [issued, held]⟩
  · rw [refused]
    exact Or.inr ⟨message, rfl⟩

end

/-- A role above viewer in a result was named by the claims of the token's payload. -/
def RoleBounded (jsonLoads : String → Option Claim) (lowering : Lowering) (str : Claim → Text) (cfg : Settings)
    (body : Claim) (result : AuthResult) : Prop :=
  result.role = some .viewer ∨
    ∃ fields idToken payload claims role, body = .object fields ∧ bearerClaim fields = some (.text idToken) ∧
      payloadSegment idToken = some payload ∧ payloadClaims jsonLoads payload = some claims ∧
      result.role = some role ∧ RoleClaimed lowering str cfg claims role

/-- Behind a success status, the exchange ends in a result or in the login flow's error, the callback in a token or
a 401, and no role above viewer comes from anything but a configured name, exactly for the readable bodies. -/
theorem token_reply_ends_iff (jsonLoads : String → Option Claim) (lowering : Lowering) (str : Claim → Text)
    (hmacSha256 : String → String → Bytes) (cfg : Settings) (now : ℚ) (statusCode : Nat) (success : statusCode < 400)
    (body : Claim) :
    (ExchangeEnds (exchangeReply jsonLoads lowering str hmacSha256 cfg now statusCode body) ∧
      (cfg.oidcEnabled = true →
        Settles (oidcCallback cfg (exchangeReply jsonLoads lowering str hmacSha256 cfg now statusCode body))) ∧
      ∀ result, exchangeReply jsonLoads lowering str hmacSha256 cfg now statusCode body = .ok result →
        RoleBounded jsonLoads lowering str cfg body result) ↔
      ReplyReadable jsonLoads str cfg now body := by
  constructor
  · rintro ⟨ends, _⟩
    exact (exchangeReply_ends_iff lowering hmacSha256 success).mp ends
  · intro readable
    have ends := (exchangeReply_ends_iff lowering hmacSha256 success).mpr readable
    refine ⟨ends, fun enabled => oidcCallback_settles enabled ends, ?_⟩
    intro result exchanged
    obtain ⟨fields, idToken, payload, claims, role, whole, held, cut, found, mapped, made⟩ := exchangeReply_ok exchanged
    obtain ⟨role_, _⟩ := loginResult_full made
    rcases mapRoles_claimed mapped with rfl | claimed
    · exact Or.inl role_
    · exact Or.inr ⟨fields, idToken, payload, claims, role, whole, held, cut, found, role_, claimed⟩

/-- A loader that knows two texts. -/
def sampleLoads (text : String) : Option Claim :=
  if text = "\x7b\"sub\":\"u1\"\x7d" then some (.object [(Text.ofString "sub", .text (Text.ofString "u1"))])
  else if text = "null" then some .null
  else none

def replyOf (idToken : String) : Claim := .object [(Text.ofString "id_token", .text (Text.ofString idToken))]

theorem token_reply_ends_iff_subject :
    (ExchangeEnds (exchangeReply sampleLoads asciiLowering (fun _ => []) oneByte oidcCfg 1000 200
        (replyOf "aaa.eyJzdWIiOiJ1MSJ9.bbb")) ∧
      (oidcCfg.oidcEnabled = true →
        Settles (oidcCallback oidcCfg (exchangeReply sampleLoads asciiLowering (fun _ => []) oneByte oidcCfg 1000 200
          (replyOf "aaa.eyJzdWIiOiJ1MSJ9.bbb")))) ∧
      ∀ result, exchangeReply sampleLoads asciiLowering (fun _ => []) oneByte oidcCfg 1000 200
          (replyOf "aaa.eyJzdWIiOiJ1MSJ9.bbb") = .ok result →
        RoleBounded sampleLoads asciiLowering (fun _ => []) oidcCfg (replyOf "aaa.eyJzdWIiOiJ1MSJ9.bbb") result) ↔
      ReplyReadable sampleLoads (fun _ => []) oidcCfg 1000 (replyOf "aaa.eyJzdWIiOiJ1MSJ9.bbb") :=
  token_reply_ends_iff sampleLoads asciiLowering (fun _ => []) oneByte oidcCfg 1000 200 (by decide)
    (replyOf "aaa.eyJzdWIiOiJ1MSJ9.bbb")

/-- A payload of one base64 digit is an unhandled error of the callback; a payload or a body that is null raises too. -/
theorem malformed_payload_raises :
    exchangeReply sampleLoads asciiLowering (fun _ => []) oneByte oidcCfg 1000 200 (replyOf "a.b.c") = .error .raised ∧
      oidcCallback oidcCfg (exchangeReply sampleLoads asciiLowering (fun _ => []) oneByte oidcCfg 1000 200
        (replyOf "a.b.c")) = .error internalError ∧
      exchangeReply sampleLoads asciiLowering (fun _ => []) oneByte oidcCfg 1000 200 (replyOf "a.bnVsbA.c") =
        .error .raised ∧
      exchangeReply sampleLoads asciiLowering (fun _ => []) oneByte oidcCfg 1000 200 .null = .error .raised := by
  decide +kernel

end Iems.Api
