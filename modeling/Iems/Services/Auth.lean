import Iems.Lib.Dict
import Iems.Lib.Split
import Iems.Security.Totp

/-! Local users, roles and signed tokens. -/
namespace Iems.Services
open Lib Iems.Core Iems.Security

inductive Role where
  | viewer
  | operator
  | admin
  deriving DecidableEq

def Role.value : Role → String
  | .viewer => "viewer"
  | .operator => "operator"
  | .admin => "admin"

def Role.text (role : Role) : Text := Text.ofString role.value

/-- `Role(role_s)`: `none` where it raises. -/
def Role.ofValue? (text : Text) : Option Role := [Role.viewer, .operator, .admin].find? fun role => role.text == text

structure AuthResult where
  ok : Bool
  username : Option Text := none
  role : Option Role := none
  requires2fa : Bool := false
  token : Option Text := none
  detail : String := ""
  deriving DecidableEq

/-- `int(time.time())`. -/
def clockSeconds (now : ℚ) : Int := if now < 0 then ⌈now⌉ else ⌊now⌋

def colon : CodePoint := 0x3A

def hexDigit (n : Nat) : CodePoint := codePoint n.digitChar

def hexdigest (digest : Bytes) : Text := digest.flatMap fun byte => [hexDigit (byte.toNat / 16), hexDigit (byte.toNat % 16)]

section
variable (hmacSha256 : String → String → Bytes)

def sign (cfg : Settings) (payload : Text) : Option Text :=
  payload.encode?.map fun message => hexdigest (hmacSha256 cfg.secretKey message)

def tokenBody (username roleS expS : Text) : Text := username ++ colon :: roleS ++ colon :: expS

/-- `exp`: a lifetime of zero counts as none given. -/
def expiry (cfg : Settings) (ttlSeconds : Option Int) (now : ℚ) : Int :=
  clockSeconds now + (match ttlSeconds with
    | none => cfg.authTokenTtlSeconds
    | some ttl => if ttl = 0 then cfg.authTokenTtlSeconds else ttl)

def issuedBody (cfg : Settings) (username : Text) (role : Role) (ttlSeconds : Option Int) (now : ℚ) : Option Text :=
  (intText (expiry cfg ttlSeconds now)).map fun expS => tokenBody username role.text expS

/-- `none` where it raises. -/
def issueToken (cfg : Settings) (username : Text) (role : Role) (ttlSeconds : Option Int) (now : ℚ) : Option Text := do
  let body ← issuedBody cfg username role ttlSeconds now
  let sig ← sign hmacSha256 cfg body
  return body ++ colon :: sig

def malformedToken : AuthResult := { ok := false, detail := "Malformed token" }

/-- `none` where the comparison of the signatures raises, which nothing catches. -/
def verifyToken (cfg : Settings) (token : Text) (now : ℚ) : Option AuthResult :=
  match splitMax colon 3 token with
  | [username, roleS, expS, sig] =>
    match sign hmacSha256 cfg (tokenBody username roleS expS) with
    | none => some malformedToken
    | some expected =>
      match compareDigest expected sig with
      | none => none
      | some false => some { ok := false, detail := "Invalid token signature" }
      | some true =>
        match parseInt expS with
        | none => some malformedToken
        | some exp =>
          if exp < clockSeconds now then some { ok := false, detail := "Token expired" }
          else
            match Role.ofValue? roleS with
            | none => some malformedToken
            | some role => some { ok := true, username := some username, role := some role, token := some token }
  | _ => some malformedToken

/-! ### What an accepted token is made of -/

/-- The reading of a token that passes every check. -/
structure Accepted (cfg : Settings) (token : Text) (now : ℚ) (username : Text) (role : Role) (expS sig : Text) : Prop where
  joined : token = tokenBody username role.text expS ++ colon :: sig
  free : colon ∉ username ∧ colon ∉ role.text ∧ colon ∉ expS
  signed : sign hmacSha256 cfg (tokenBody username role.text expS) = some sig
  ascii : sig.all isAscii
  fresh : ∃ exp, parseInt expS = some exp ∧ clockSeconds now ≤ exp

end

variable {hmacSha256 : String → String → Bytes} {cfg : Settings} {token username : Text} {role : Role} {now : ℚ}

theorem ofValue?_text (role : Role) : Role.ofValue? role.text = some role := by
  cases role <;> decide

theorem ofValue?_eq {text : Text} (found : Role.ofValue? text = some role) : text = role.text := by
  have same := List.find?_some found
  exact (eq_of_beq same).symm

theorem roleText_injective {role other : Role} (same : role.text = other.text) : role = other := by
  have read := ofValue?_text role
  rw [same, ofValue?_text] at read
  exact (Option.some.inj read).symm

theorem roleText_free (role : Role) : colon ∉ role.text := by
  cases role <;> decide

theorem compareDigest_true {a b : Text} : compareDigest a b = some true ↔ a = b ∧ b.all isAscii = true := by
  unfold compareDigest
  constructor
  · intro same
    split at same
    · rename_i ascii
      exact ⟨eq_of_beq (Option.some.inj same), (Bool.and_eq_true_iff.mp ascii).2⟩
    · cases same
  · rintro ⟨rfl, ascii⟩
    simp [ascii]

theorem splitMax_token {roleS expS sig : Text} :
    splitMax colon 3 token = [username, roleS, expS, sig] ↔
      token = tokenBody username roleS expS ++ colon :: sig ∧ colon ∉ username ∧ colon ∉ roleS ∧ colon ∉ expS := by
  rw [splitMax_cons]
  constructor
  · rintro ⟨tail, rfl, freeName, cut⟩
    obtain ⟨tail, rfl, freeRole, cut⟩ := splitMax_cons.mp cut
    obtain ⟨tail, rfl, freeExp, cut⟩ := splitMax_cons.mp cut
    obtain rfl : tail = sig := by simpa [splitMax] using cut
    exact ⟨by simp [tokenBody], freeName, freeRole, freeExp⟩
  · rintro ⟨rfl, freeName, freeRole, freeExp⟩
    refine ⟨roleS ++ colon :: (expS ++ colon :: sig), by simp [tokenBody], freeName, ?_⟩
    rw [splitMax_field _ freeRole, splitMax_field _ freeExp, splitMax]

theorem verifyToken_accepted {expS sig : Text} (accepted : Accepted hmacSha256 cfg token now username role expS sig) :
    verifyToken hmacSha256 cfg token now =
      some { ok := true, username := some username, role := some role, token := some token } := by
  obtain ⟨exp, dated, fresh⟩ := accepted.fresh
  unfold verifyToken
  rw [splitMax_token.mpr ⟨accepted.joined, accepted.free⟩]
  simp only [accepted.signed, compareDigest_true.mpr ⟨rfl, accepted.ascii⟩, dated, ofValue?_text,
    if_neg (Int.not_lt.mpr fresh)]

theorem accepted_of_verifyToken {result : AuthResult} (verified : verifyToken hmacSha256 cfg token now = some result)
    (ok : result.ok = true) :
    ∃ username role expS sig, Accepted hmacSha256 cfg token now username role expS sig ∧
      result = { ok := true, username := some username, role := some role, token := some token } := by
  unfold verifyToken at verified
  split at verified
  · rename_i username roleS expS sig cut
    obtain ⟨joined, free⟩ := splitMax_token.mp cut
    split at verified
    · cases Option.some.inj verified
      cases ok
    · rename_i expected signed
      split at verified
      · cases verified
      · cases Option.some.inj verified
        cases ok
      · rename_i same
        obtain ⟨rfl, ascii⟩ := compareDigest_true.mp same
        split at verified
        · cases Option.some.inj verified
          cases ok
        · rename_i exp dated
          split at verified
          · cases Option.some.inj verified
            cases ok
          · rename_i fresh
            split at verified
            · cases Option.some.inj verified
              cases ok
            · rename_i role known
              obtain rfl := ofValue?_eq known
              exact ⟨username, role, expS, expected, ⟨joined, free, signed, ascii, exp, dated, Int.not_lt.mp fresh⟩,
                (Option.some.inj verified).symm⟩
  · cases Option.some.inj verified
    cases ok

/-! ### The round trip -/

theorem hexdigest_all {p : CodePoint → Bool} (digits : ∀ n < 16, p (hexDigit n) = true) (digest : Bytes) :
    (hexdigest digest).all p = true := by
  rw [List.all_eq_true]
  intro c member
  obtain ⟨byte, _, digit⟩ := List.mem_flatMap.mp member
  have size := byte.toNat_lt
  simp only [List.mem_cons, List.not_mem_nil, or_false] at digit
  rcases digit with rfl | rfl
  · exact digits _ (by omega)
  · exact digits _ (by omega)

theorem sign_ascii {payload sig : Text} (signed : sign hmacSha256 cfg payload = some sig) : sig.all isAscii = true := by
  unfold sign at signed
  obtain ⟨message, _, rfl⟩ := Option.map_eq_some_iff.mp signed
  exact hexdigest_all (by decide) _

theorem sign_isSome {payload : Text} : (sign hmacSha256 cfg payload).isSome = !payload.any isSurrogate := by
  unfold sign
  rw [Option.isSome_map, encode?_isSome]

theorem roleText_surrogate (role : Role) : role.text.any isSurrogate = false := by
  cases role <;> decide

theorem tokenBody_surrogate {expS : Text} {exp : Int} (printed : intText exp = some expS) :
    (tokenBody username role.text expS).any isSurrogate = username.any isSurrogate := by
  have separator : isSurrogate colon = false := by decide
  unfold tokenBody
  simp only [List.any_append, List.any_cons, separator, roleText_surrogate, intText_surrogate printed, Bool.or_false]

theorem intText_free {expS : Text} {exp : Int} (printed : intText exp = some expS) : colon ∉ expS := by
  intro member
  exact absurd (mem_intText printed member) (by decide)

theorem clockSeconds_le {exp : Int} (fresh : now ≤ exp) : clockSeconds now ≤ exp := by
  unfold clockSeconds
  split
  · exact Int.ceil_le.mpr fresh
  · exact_mod_cast (Int.floor_le now).trans fresh

theorem issueToken_isSome {ttlSeconds : Option Int} {issued : ℚ} :
    (issueToken hmacSha256 cfg username role ttlSeconds issued).isSome ↔
      username.any isSurrogate = false ∧ (intText (expiry cfg ttlSeconds issued)).isSome := by
  unfold issueToken issuedBody
  cases printed : intText (expiry cfg ttlSeconds issued) with
  | none => simp
  | some expS =>
    have signable := @sign_isSome hmacSha256 cfg (tokenBody username role.text expS)
    rw [tokenBody_surrogate printed] at signable
    cases signed : sign hmacSha256 cfg (tokenBody username role.text expS) <;> simp_all

theorem issueToken_eq {ttlSeconds : Option Int} {issued : ℚ}
    (made : issueToken hmacSha256 cfg username role ttlSeconds issued = some token) :
    ∃ expS sig, intText (expiry cfg ttlSeconds issued) = some expS ∧
      sign hmacSha256 cfg (tokenBody username role.text expS) = some sig ∧
      token = tokenBody username role.text expS ++ colon :: sig := by
  unfold issueToken issuedBody at made
  cases printed : intText (expiry cfg ttlSeconds issued) with
  | none => simp [printed] at made
  | some expS =>
    cases signed : sign hmacSha256 cfg (tokenBody username role.text expS) with
    | none => simp [printed, signed] at made
    | some sig =>
      refine ⟨expS, sig, rfl, signed, ?_⟩
      simp only [printed, Option.map_some, Option.bind_eq_bind, Option.bind_some, signed] at made
      exact (Option.some.inj made).symm

/-- A token is read back as it was issued exactly for a name without a colon. -/
theorem issued_accepted_iff {ttlSeconds : Option Int} {issued : ℚ}
    (made : issueToken hmacSha256 cfg username role ttlSeconds issued = some token)
    (fresh : now ≤ expiry cfg ttlSeconds issued) :
    (∃ expS sig, Accepted hmacSha256 cfg token now username role expS sig) ↔ colon ∉ username := by
  constructor
  · rintro ⟨expS, sig, accepted⟩
    exact accepted.free.1
  · intro free
    obtain ⟨expS, sig, printed, signed, rfl⟩ := issueToken_eq made
    exact ⟨expS, sig, rfl, ⟨free, roleText_free role, intText_free printed⟩, signed, sign_ascii signed, _,
      parseInt_intText printed, clockSeconds_le fresh⟩

/-- A token comes back with its name and role exactly where the name holds no colon, where it can be
encoded and where the expiry can be printed. -/
theorem token_roundtrip_iff (hmacSha256 : String → String → Bytes) (cfg : Settings) (username : Text) (role : Role)
    (ttlSeconds : Option Int) (issued now : ℚ) (fresh : now ≤ expiry cfg ttlSeconds issued) :
    (∃ token result, issueToken hmacSha256 cfg username role ttlSeconds issued = some token ∧
        verifyToken hmacSha256 cfg token now = some result ∧ result.ok = true ∧
        result.username = some username ∧ result.role = some role) ↔
      colon ∉ username ∧ username.any isSurrogate = false ∧ (intText (expiry cfg ttlSeconds issued)).isSome := by
  constructor
  · rintro ⟨token, result, made, verified, ok, name, held⟩
    obtain ⟨username', role', expS, sig, accepted, rfl⟩ := accepted_of_verifyToken verified ok
    obtain rfl := Option.some.inj name
    obtain rfl := Option.some.inj held
    exact ⟨accepted.free.1, issueToken_isSome.mp (by rw [made]; rfl)⟩
  · rintro ⟨free, printable⟩
    obtain ⟨token, made⟩ := Option.isSome_iff_exists.mp ((@issueToken_isSome hmacSha256 _ _ role _ _).mpr printable)
    obtain ⟨expS, sig, accepted⟩ := (issued_accepted_iff made fresh).mpr free
    exact ⟨token, _, made, verifyToken_accepted accepted, rfl, rfl, rfl⟩

def oneByte (_ _ : String) : Bytes := [0x5A]

theorem token_roundtrip_iff_hour :
    (∃ token result, issueToken oneByte {} (Text.ofString "alice") .operator (some 3600) 1000 = some token ∧
        verifyToken oneByte {} token 4600 = some result ∧ result.ok = true ∧
        result.username = some (Text.ofString "alice") ∧ result.role = some .operator) ↔
      colon ∉ Text.ofString "alice" ∧ (Text.ofString "alice").any isSurrogate = false ∧
        (intText (expiry {} (some 3600) 1000)).isSome :=
  token_roundtrip_iff oneByte {} (Text.ofString "alice") .operator (some 3600) 1000 4600 (by decide +kernel)

/-- A name from the identity provider with a colon in it never comes back. -/
theorem colon_name_refused :
    ¬ ∀ (hmacSha256 : String → String → Bytes) (cfg : Settings) (username : Text) (role : Role) (ttl : Int)
        (issued now : ℚ), 0 < ttl → now ≤ expiry cfg (some ttl) issued →
      ∃ token result, issueToken hmacSha256 cfg username role (some ttl) issued = some token ∧
        verifyToken hmacSha256 cfg token now = some result ∧ result.ok = true ∧
        result.username = some username ∧ result.role = some role := by
  intro roundTrip
  obtain ⟨token, result, _, verified, ok, name, _⟩ := roundTrip oneByte {} (Text.ofString "urn:alice") .operator 3600
    1000 4600 (by decide) (by decide +kernel)
  obtain ⟨username, role, expS, sig, accepted, rfl⟩ := accepted_of_verifyToken verified ok
  obtain rfl := Option.some.inj name
  exact accepted.free.1 (by decide)

/-! ### No token is read as another identity -/

/-- A call of `issue_token`. -/
structure Issue where
  username : Text
  role : Role
  ttlSeconds : Option Int
  issuedAt : ℚ

def Issue.expiry (issue : Issue) (cfg : Settings) : Int := Services.expiry cfg issue.ttlSeconds issue.issuedAt

def Issue.body (issue : Issue) (cfg : Settings) : Option Text :=
  issuedBody cfg issue.username issue.role issue.ttlSeconds issue.issuedAt

/-- An issued body that a presented body equals carries the same fields, whatever its name holds. -/
theorem tokenBody_unique {name other expS : Text} {role held : Role} {exp : Int} {printed : Text}
    (dated : intText exp = some printed) (freeExp : colon ∉ expS)
    (same : tokenBody name role.text expS = tokenBody other held.text printed) :
    name = other ∧ role = held ∧ expS = printed := by
  unfold tokenBody at same
  obtain ⟨front, sameExp⟩ := last_field_unique freeExp (intText_free dated) same
  obtain ⟨sameName, sameRole⟩ := last_field_unique (roleText_free role) (roleText_free held) front
  exact ⟨sameName, roleText_injective sameRole, sameExp⟩

/-- Under a signature that only issuing produces, an accepted token was issued for its name and role,
and its expiry has not passed. -/
theorem token_identity (hmacSha256 : String → String → Bytes) (cfg : Settings) (issued : List Issue) (token : Text)
    (now : ℚ) (result : AuthResult)
    (ideal : ∀ body sig, token = body ++ colon :: sig → sign hmacSha256 cfg body = some sig →
      ∃ issue ∈ issued, issue.body cfg = some body)
    (verified : verifyToken hmacSha256 cfg token now = some result) (ok : result.ok = true) :
    ∃ issue ∈ issued, result.username = some issue.username ∧ result.role = some issue.role ∧
      clockSeconds now ≤ issue.expiry cfg := by
  obtain ⟨username, role, expS, sig, accepted, rfl⟩ := accepted_of_verifyToken verified ok
  obtain ⟨issue, member, body⟩ := ideal _ sig accepted.joined accepted.signed
  unfold Issue.body issuedBody at body
  obtain ⟨printed, dated, body⟩ := Option.map_eq_some_iff.mp body
  obtain ⟨rfl, rfl, rfl⟩ := tokenBody_unique dated accepted.free.2.2 body.symm
  obtain ⟨exp, read, fresh⟩ := accepted.fresh
  rw [parseInt_intText dated] at read
  obtain rfl := Option.some.inj read
  exact ⟨issue, member, rfl, rfl, fresh⟩

def bobToken : Text :=
  tokenBody (Text.ofString "bob") Role.operator.text (Text.ofString "4600") ++ colon :: hexdigest [0x5A]

def sampleIssues : List Issue :=
  [⟨Text.ofString "alice:admin", .viewer, some 60, 1000⟩, ⟨Text.ofString "bob", .operator, none, 1000⟩]

theorem bobToken_unforged (body sig : Text) (read : bobToken = body ++ colon :: sig)
    (signed : sign oneByte {} body = some sig) : ∃ issue ∈ sampleIssues, issue.body {} = some body := by
  obtain ⟨message, _, rfl⟩ := Option.map_eq_some_iff.mp signed
  -- the signature holds no colon, so the body in front of it is the signed one
  have free : colon ∉ hexdigest [0x5A] := by decide
  obtain ⟨rfl, _⟩ := last_field_unique free free read
  exact ⟨⟨Text.ofString "bob", .operator, none, 1000⟩, by simp [sampleIssues], by decide +kernel⟩

theorem token_identity_bob :
    ∃ issue ∈ sampleIssues, some (Text.ofString "bob") = some issue.username ∧ some Role.operator = some issue.role ∧
      clockSeconds 2000 ≤ issue.expiry {} :=
  token_identity oneByte {} sampleIssues bobToken 2000
    { ok := true, username := some (Text.ofString "bob"), role := some .operator, token := some bobToken }
    bobToken_unforged (by decide +kernel) rfl

end Iems.Services
