import Iems.Api.Deps

/-! Every end of the check of a bearer token. -/
namespace Iems.Api
open Lib Iems.Core Iems.Security Iems.Services

/-- The comparison of signatures raises on a character outside ASCII, once the fields in front of it are signed. -/
def SignatureComparable (token : Text) : Prop :=
  ∀ username roleS expS sig, splitMax colon 3 token = [username, roleS, expS, sig] →
    (tokenBody username roleS expS).any isSurrogate = false → sig.all isAscii = true

/-- A user of a token that is signed and fresh. -/
def ValidUser (hmacSha256 : String → String → Bytes) (cfg : Settings) (now : ℚ) (user : CurrentUser) : Prop :=
  ∃ expS sig, Accepted hmacSha256 cfg user.token now user.username user.role expS sig

section
variable {lowering : Lowering} {hmacSha256 : String → String → Bytes} {cfg : Settings} {authorization : Option Text}
  {token : Text} {now : ℚ}

theorem compareDigest_none {a b : Text} (ascii : a.all isAscii = true) :
    compareDigest a b = none ↔ b.all isAscii = false := by
  unfold compareDigest
  rw [ascii, Bool.true_and]
  cases b.all isAscii with
  | false => simp
  | true => simp

theorem verifyToken_isSome : (verifyToken hmacSha256 cfg token now).isSome ↔ SignatureComparable token := by
  constructor
  · intro answered username roleS expS sig cut encodable
    by_contra foreign
    have signable := @sign_isSome hmacSha256 cfg (tokenBody username roleS expS)
    rw [encodable] at signable
    obtain ⟨expected, signed⟩ := Option.isSome_iff_exists.mp signable
    have raised := (compareDigest_none (b := sig) (sign_ascii signed)).mpr (by simpa using foreign)
    unfold verifyToken at answered
    rw [cut] at answered
    simp only [signed, raised] at answered
    cases answered
  · intro comparable
    cases verified : verifyToken hmacSha256 cfg token now with
    | some _ => rfl
    | none =>
      unfold verifyToken at verified
      split at verified
      · rename_i username roleS expS sig cut
        split at verified
        · cases verified
        · rename_i expected signed
          have signable := @sign_isSome hmacSha256 cfg (tokenBody username roleS expS)
          rw [signed] at signable
          have encodable : (tokenBody username roleS expS).any isSurrogate = false := by simpa using signable.symm
          have ascii := comparable username roleS expS sig cut encodable
          split at verified
          · rename_i raised
            rw [(compareDigest_none (sign_ascii signed)).mp raised] at ascii
            cases ascii
          · cases verified
          · split at verified
            · cases verified
            · split at verified
              · cases verified
              · split at verified <;> cases verified
      · cases verified

/-- A verified token's user is valid, and every other answer is a 401. -/
theorem getCurrentUser_verified {result : AuthResult} (bearer : extractBearer lowering authorization = some token)
    (verified : verifyToken hmacSha256 cfg token now = some result) :
    (∃ user, getCurrentUser lowering hmacSha256 cfg authorization now = .ok user ∧ user.token = token ∧
        ValidUser hmacSha256 cfg now user) ∨
      ∃ detail, getCurrentUser lowering hmacSha256 cfg authorization now = .error ⟨401, detail⟩ := by
  unfold getCurrentUser
  simp only [bearer, verified]
  cases ok : result.ok with
  | false => exact Or.inr ⟨_, rfl⟩
  | true =>
    obtain ⟨username, role, expS, sig, accepted, rfl⟩ := accepted_of_verifyToken verified ok
    exact Or.inl ⟨⟨username, role, token⟩, rfl, rfl, expS, sig, accepted⟩

/-- With authentication enforced, a request ends with the user of a valid token or with a 401, and the token's
verification returns, exactly where the comparison of the signatures does not raise. -/
theorem getCurrentUser_ends_iff (lowering : Lowering) (hmacSha256 : String → String → Bytes) (cfg : Settings)
    (authorization : Option Text) (now : ℚ) (enforced : cfg.authEnforce = true) :
    (((∃ user, getCurrentUser lowering hmacSha256 cfg authorization now = .ok user ∧
          extractBearer lowering authorization = some user.token ∧ ValidUser hmacSha256 cfg now user) ∨
        ∃ detail, getCurrentUser lowering hmacSha256 cfg authorization now = .error ⟨401, detail⟩) ∧
      ∀ token, extractBearer lowering authorization = some token → (verifyToken hmacSha256 cfg token now).isSome) ↔
      ∀ token, extractBearer lowering authorization = some token → SignatureComparable token := by
  constructor
  · rintro ⟨_, returns⟩ token bearer
    exact verifyToken_isSome.mp (returns token bearer)
  · intro comparable
    refine ⟨?_, fun token bearer => verifyToken_isSome.mpr (comparable token bearer)⟩
    cases bearer : extractBearer lowering authorization with
    | none =>
      refine Or.inr ⟨"Missing bearer token", ?_⟩
      simp [getCurrentUser, bearer, enforced]
    | some token =>
      obtain ⟨result, verified⟩ := Option.isSome_iff_exists.mp
        ((@verifyToken_isSome hmacSha256 cfg token now).mpr (comparable token bearer))
      rcases getCurrentUser_verified bearer verified with ⟨user, passed, rfl, valid⟩ | refused
      · exact Or.inl ⟨user, passed, rfl, valid⟩
      · exact Or.inr refused

end

theorem getCurrentUser_ends_iff_bob :
    (((∃ user, getCurrentUser asciiLowering oneByte enforcedCfg (some (Text.ofString "Bearer bob:viewer:9:5a")) 8 =
            .ok user ∧
          extractBearer asciiLowering (some (Text.ofString "Bearer bob:viewer:9:5a")) = some user.token ∧
          ValidUser oneByte enforcedCfg 8 user) ∨
        ∃ detail, getCurrentUser asciiLowering oneByte enforcedCfg (some (Text.ofString "Bearer bob:viewer:9:5a")) 8 =
          .error ⟨401, detail⟩) ∧
      ∀ token, extractBearer asciiLowering (some (Text.ofString "Bearer bob:viewer:9:5a")) = some token →
        (verifyToken oneByte enforcedCfg token 8).isSome) ↔
      ∀ token, extractBearer asciiLowering (some (Text.ofString "Bearer bob:viewer:9:5a")) = some token →
        SignatureComparable token :=
  getCurrentUser_ends_iff asciiLowering oneByte enforcedCfg _ 8 rfl

/-- One accented letter in the signature ends in the unhandled error of the comparison. -/
theorem accented_signature_raises :
    enforcedCfg.authEnforce = true ∧
      extractBearer asciiLowering (some (Text.ofString "Bearer bob:viewer:9:é")) =
        some (Text.ofString "bob:viewer:9:é") ∧
      verifyToken oneByte enforcedCfg (Text.ofString "bob:viewer:9:é") 8 = none ∧
      getCurrentUser asciiLowering oneByte enforcedCfg (some (Text.ofString "Bearer bob:viewer:9:é")) 8 =
        .error internalError := by
  have raised : verifyToken oneByte enforcedCfg (Text.ofString "bob:viewer:9:é") 8 = none := by decide +kernel
  have bearer : extractBearer asciiLowering (some (Text.ofString "Bearer bob:viewer:9:é")) =
      some (Text.ofString "bob:viewer:9:é") := by decide +kernel
  refine ⟨rfl, bearer, raised, ?_⟩
  unfold getCurrentUser
  simp only [bearer, raised]

end Iems.Api
