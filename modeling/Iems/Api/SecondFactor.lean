import Iems.Api.Deps
import Iems.Security.TotpCodes

/-! The ends of a login and of a settings change under any second factor. -/
namespace Iems.Api
open Lib Iems.Core Iems.Security Iems.Services

structure TokenResponse where
  accessToken : Text
  role : String
  requires2fa : Bool
  deriving DecidableEq

section
variable (users : Dict Text LocalUser) (pbkdf2 : String → Bytes → Bytes) (hmacSha256 : String → String → Bytes)
  (b32decode : String → Option Bytes) (hmacSha1 : Bytes → Bytes → Bytes)

def login (cfg : Settings) (username password : Text) (totpCode : Option Text) (now : ℚ) : Except HttpError TokenResponse :=
  match authenticate users pbkdf2 hmacSha256 b32decode hmacSha1 cfg username password totpCode false now with
  | none => .error internalError
  | some result =>
    if !result.ok then .error ⟨401, result.detail⟩
    else
      match result.token, result.role with
      | some token, some role => .ok ⟨token, role.value, result.requires2fa⟩
      | _, _ => .error internalError

end

/-- Acceptance or a 401. -/
def Settles {α : Type} (answer : Except HttpError α) : Prop :=
  (∃ accepted, answer = .ok accepted) ∨ ∃ detail, answer = .error ⟨401, detail⟩

/-- Local users with plain names and hashes, whose second factors share one secret. -/
structure UsersOf (secret : String) (users : Dict Text LocalUser) : Prop where
  enrolled : ∀ name user, users.get? name = some user → ∀ held ∈ user.totpSecret, held = secret
  hashed : ∀ name user, users.get? name = some user → user.passwordHash.all isAscii = true
  named : ∀ name user, users.get? name = some user → name.any isSurrogate = false

theorem fromHex_ascii {text : Text} {bytes : Bytes} (read : fromHex text = some bytes) : text.all isAscii = true := by
  have digit : ∀ c : CodePoint, (hexValue c).isSome → isAscii c = true := by
    intro c read
    unfold hexValue at read
    unfold isAscii
    simp only [decide_eq_true_eq]
    split at read
    · omega
    · split at read
      · omega
      · split at read
        · omega
        · cases read
  induction text using fromHex.induct generalizing bytes with
  | case1 => rfl
  | case2 high rest blank ih =>
    unfold fromHex at read
    rw [if_pos blank] at read
    have ascii : isAscii high = true := by
      unfold isAscii
      simp only [decide_eq_true_eq]
      omega
    simp [ascii, ih read]
  | case3 high blank =>
    unfold fromHex at read
    rw [if_neg blank] at read
    cases read
  | case4 high blank low rest ih =>
    unfold fromHex at read
    rw [if_neg blank] at read
    simp only [Option.bind_eq_bind, Option.bind_eq_some_iff] at read
    obtain ⟨h, first, l, second, later, tail, _⟩ := read
    simp [digit high (by rw [first]; rfl), digit low (by rw [second]; rfl), ih tail]

section
variable {users : Dict Text LocalUser} {pbkdf2 : String → Bytes → Bytes} {hmacSha256 : String → String → Bytes}
  {b32decode : String → Option Bytes} {hmacSha1 : Bytes → Bytes → Bytes} {cfg : Settings} {secret : String} {now : ℚ}
  {code : Text}

variable (pbkdf2) in
theorem verifyPassword_isSome (password : Text) {encoded : Text} (ascii : encoded.all isAscii = true) :
    (verifyPassword pbkdf2 password encoded).isSome := by
  unfold verifyPassword
  split
  · rename_i algo salt digest cut
    split
    · rfl
    · split
      · rfl
      · rename_i candidate hashed
        unfold hashPassword at hashed
        simp only [Option.bind_eq_bind, Option.bind_eq_some_iff] at hashed
        obtain ⟨saltBytes, read, message, _, made⟩ := hashed
        obtain rfl := Option.some.inj made
        have candidate : (encodeHash pbkdf2 message salt saltBytes).all isAscii = true := by
          have label : (Text.ofString "pbkdf2_sha256$").all isAscii = true := by decide
          have separator : isAscii dollar = true := by decide
          unfold encodeHash
          rw [List.all_append, List.all_append, List.all_cons, label, fromHex_ascii read, separator,
            hexdigest_all (by decide)]
          rfl
        rw [compareDigest_ascii candidate ascii]
        rfl
  · rfl

/-- What a login can answer: an authentication that returns gives a token with its role, or a 401. -/
theorem login_settles_of {username password : Text} {totpCode : Option Text} {result : AuthResult}
    (answered : authenticate users pbkdf2 hmacSha256 b32decode hmacSha1 cfg username password totpCode false now =
      some result) (full : result.ok = true → result.token.isSome ∧ result.role.isSome) :
    Settles (login users pbkdf2 hmacSha256 b32decode hmacSha1 cfg username password totpCode now) := by
  unfold login
  rw [answered]
  cases ok : result.ok with
  | false => exact Or.inr ⟨result.detail, by simp [ok]⟩
  | true =>
    obtain ⟨token, issued⟩ := Option.isSome_iff_exists.mp (full ok).1
    obtain ⟨role, held⟩ := Option.isSome_iff_exists.mp (full ok).2
    exact Or.inl ⟨⟨token, role.value, result.requires2fa⟩, by simp [ok, issued, held]⟩

theorem givenCode_typed {typed : Text} (given : givenCode (some code) = some typed) : typed = code :=
  (Option.some.inj (Option.filter_eq_some_iff.mp given).1).symm

/-- A local user's authentication answers, and an accepted one has its token and role. -/
theorem authenticate_answers (kept : UsersOf secret users) (printable : (intText (expiry cfg none now)).isSome)
    (returns : (verifyTotp b32decode hmacSha1 secret code now).isSome) {username : Text} {user : LocalUser}
    (found : users.get? username = some user) (password : Text) :
    ∃ result, authenticate users pbkdf2 hmacSha256 b32decode hmacSha1 cfg username password (some code) false now =
      some result ∧ (result.ok = true → result.token.isSome ∧ result.role.isSome) := by
  obtain ⟨matched, compared⟩ := Option.isSome_iff_exists.mp
    (verifyPassword_isSome pbkdf2 password (kept.hashed username user found))
  obtain ⟨token, issued⟩ := Option.isSome_iff_exists.mp
    ((@issueToken_isSome hmacSha256 cfg username user.role none now).mpr ⟨kept.named username user found, printable⟩)
  unfold authenticate
  simp only [found, compared, issued, Option.map_some]
  cases matched with
  | false => exact ⟨_, rfl, by simp⟩
  | true =>
    cases secretOf : user.totpSecret with
    | none => exact ⟨_, rfl, by simp⟩
    | some held =>
      obtain rfl := kept.enrolled username user found held secretOf
      dsimp only
      split
      · cases given : givenCode (some code) with
        | none => exact ⟨_, rfl, by simp⟩
        | some typed =>
          obtain rfl := givenCode_typed given
          obtain ⟨verdict, verified⟩ := Option.isSome_iff_exists.mp returns
          dsimp only
          rw [verified]
          cases verdict with
          | false => exact ⟨_, rfl, by simp⟩
          | true => exact ⟨_, rfl, by simp⟩
      · exact ⟨_, rfl, by simp⟩

theorem login_settles (kept : UsersOf secret users) (printable : (intText (expiry cfg none now)).isSome)
    (returns : (verifyTotp b32decode hmacSha1 secret code now).isSome) (username password : Text) :
    Settles (login users pbkdf2 hmacSha256 b32decode hmacSha1 cfg username password (some code) now) := by
  cases found : users.get? username with
  | none =>
    have refused : authenticate users pbkdf2 hmacSha256 b32decode hmacSha1 cfg username password (some code) false now =
        some { ok := false, detail := "Invalid credentials" } := by simp [authenticate, found]
    exact login_settles_of refused (by simp)
  | some user =>
    obtain ⟨result, answered, full⟩ := authenticate_answers kept printable returns found password
    exact login_settles_of answered full

theorem checkSecondFactor_settles (kept : UsersOf secret users)
    (returns : (verifyTotp b32decode hmacSha1 secret code now).isSome) (user : CurrentUser) :
    Settles (checkSecondFactor users b32decode hmacSha1 cfg user (some code) now) := by
  have verdict : (verifySettings2fa users b32decode hmacSha1 user.username (some code) now).isSome := by
    unfold verifySettings2fa
    cases found : users.get? user.username with
    | none => rfl
    | some local_ =>
      dsimp only
      cases secretOf : local_.totpSecret with
      | none => rfl
      | some held =>
        obtain rfl := kept.enrolled _ local_ found held secretOf
        dsimp only
        split
        · rfl
        · rename_i typed given
          obtain rfl := givenCode_typed given
          exact returns
  obtain ⟨accepted, verified⟩ := Option.isSome_iff_exists.mp verdict
  unfold checkSecondFactor
  split
  · exact Or.inl ⟨user, rfl⟩
  · rw [verified]
    cases accepted with
    | false => exact Or.inr ⟨_, rfl⟩
    | true => exact Or.inl ⟨user, rfl⟩

end

/-- A code is checked without raising, against the codes of three steps, and a login or a settings change with it
ends in acceptance or a 401, exactly for text that is no digit string and for ASCII digits. -/
theorem second_factor_settles_iff (users : Dict Text LocalUser) (pbkdf2 : String → Bytes → Bytes)
    (hmacSha256 : String → String → Bytes) (b32decode : String → Option Bytes) (hmacSha1 : Bytes → Bytes → Bytes)
    (secret : String) (decodes : (normalizeSecret b32decode secret).isSome)
    (sized : ∀ key msg, (hmacSha1 key msg).length = 20) (kept : UsersOf secret users) (code : Text) (now : ℚ)
    (late : 30 ≤ now) :
    (VerifiesExactly b32decode hmacSha1 secret code now ∧
      (∀ cfg username password, (intText (expiry cfg none now)).isSome →
        Settles (login users pbkdf2 hmacSha256 b32decode hmacSha1 cfg username password (some code) now)) ∧
      ∀ cfg user, Settles (checkSecondFactor users b32decode hmacSha1 cfg user (some code) now)) ↔
      CodeReadable b32decode hmacSha1 secret code now := by
  constructor
  · rintro ⟨exact_, _⟩
    exact (verifiesExactly_iff decodes sized late).mp exact_
  · intro readable
    have exact_ := (verifiesExactly_iff decodes sized late).mpr readable
    have returns : (verifyTotp b32decode hmacSha1 secret code now).isSome := by
      obtain ⟨verdict, verified, _⟩ := exact_
      rw [verified]
      rfl
    refine ⟨exact_, ?_, ?_⟩
    · intro cfg username password printable
      exact login_settles kept printable returns username password
    · intro cfg user
      exact checkSecondFactor_settles kept returns user

theorem bootstrapUser_hash (pbkdf2 : String → Bytes → Bytes) (name : String) {digit : Char} (byte : UInt8) (role : Role)
    (totpSecret : Option String) (ascii : isAscii (codePoint digit) = true) :
    (bootstrapUser pbkdf2 name digit byte role totpSecret).passwordHash.all isAscii = true := by
  have label : (Text.ofString "pbkdf2_sha256$").all isAscii = true := by decide
  have separator : isAscii dollar = true := by decide
  have salt : (List.replicate 32 (codePoint digit)).all isAscii = true := by simp [ascii]
  unfold bootstrapUser encodeHash
  rw [List.all_append, List.all_append, List.all_cons, label, salt, separator, hexdigest_all (by decide)]
  rfl

theorem bootstrapUsers_plain {pbkdf2 : String → Bytes → Bytes} {name : Text} {user : LocalUser}
    (found : (bootstrapUsers pbkdf2).get? name = some user) :
    name.any isSurrogate = false ∧ user.passwordHash.all isAscii = true := by
  unfold bootstrapUsers at found
  rw [Dict.get?_set, Dict.get?_set, Dict.get?_set] at found
  split_ifs at found with admin operator viewer
  · obtain rfl := Option.some.inj found
    exact ⟨admin ▸ by decide, bootstrapUser_hash _ _ _ _ _ (show isAscii (codePoint '3') = true by decide)⟩
  · obtain rfl := Option.some.inj found
    exact ⟨operator ▸ by decide, bootstrapUser_hash _ _ _ _ _ (show isAscii (codePoint '2') = true by decide)⟩
  · obtain rfl := Option.some.inj found
    exact ⟨viewer ▸ by decide, bootstrapUser_hash _ _ _ _ _ (show isAscii (codePoint '1') = true by decide)⟩
  · cases found

/-- The accounts that the service starts with. -/
theorem bootstrapUsers_kept (pbkdf2 : String → Bytes → Bytes) : UsersOf demoTotpSecret (bootstrapUsers pbkdf2) := by
  constructor
  · intro name user found held enrolled
    have secret := bootstrapUsers_secret pbkdf2 name
    rw [found, Option.map_some, Option.mem_def.mp enrolled] at secret
    split_ifs at secret
    · exact Option.some.inj (Option.some.inj secret)
    · exact Option.some.inj (Option.some.inj secret)
    · cases secret
  · intro name user found
    exact (bootstrapUsers_plain found).2
  · intro name user found
    exact (bootstrapUsers_plain found).1

/-- The key that the demo secret spells in base 32. -/
def demoKey (_ : String) : Option Bytes := some [72, 101, 108, 108, 111, 33, 222, 173, 190, 239]

/-- The digests of the first steps under the demo key. -/
def demoDigest (_ msg : Bytes) : Bytes :=
  if msg = [0, 0, 0, 0, 0, 0, 0, 1] then
    [0x85, 0x3F, 0x79, 0xB6, 0x65, 0x0A, 0x9E, 0x3C, 0x5A, 0x81, 0xF1, 0x79, 0xA2, 0x09, 0x25, 0x3B, 0xCB, 0xBE, 0x74, 0x02]
  else if msg = [0, 0, 0, 0, 0, 0, 0, 2] then
    [0xE7, 0x7E, 0x81, 0x64, 0x52, 0xFC, 0xF8, 0x7C, 0x7D, 0x8A, 0xAF, 0xCD, 0x73, 0x09, 0xC4, 0x00, 0x06, 0x2F, 0x3A, 0x87]
  else
    [0x6A, 0xB9, 0x39, 0x08, 0xDC, 0xDB, 0x4A, 0x3F, 0xB4, 0x95, 0xD3, 0x8A, 0x20, 0x4F, 0x41, 0x09, 0x87, 0xCB, 0x14, 0x5E]

theorem demoDigest_length (key msg : Bytes) : (demoDigest key msg).length = 20 := by
  unfold demoDigest
  split
  · rfl
  · split <;> rfl

theorem second_factor_settles_iff_previous :
    (VerifiesExactly demoKey demoDigest demoTotpSecret (Text.ofString "996554") 60 ∧
      (∀ cfg username password, (intText (expiry cfg none 60)).isSome →
        Settles (login (bootstrapUsers fun _ _ => []) (fun _ _ => []) oneByte demoKey demoDigest cfg username password
          (some (Text.ofString "996554")) 60)) ∧
      ∀ cfg user, Settles (checkSecondFactor (bootstrapUsers fun _ _ => []) demoKey demoDigest cfg user
        (some (Text.ofString "996554")) 60)) ↔
      CodeReadable demoKey demoDigest demoTotpSecret (Text.ofString "996554") 60 :=
  second_factor_settles_iff _ _ oneByte demoKey demoDigest demoTotpSecret rfl demoDigest_length
    (bootstrapUsers_kept fun _ _ => []) (Text.ofString "996554") 60 (by norm_num)

/-- The accepted six digits raise once typed on a Persian keyboard, and a superscript digit in the header does. -/
theorem persian_digits_raise :
    verifyTotp demoKey demoDigest demoTotpSecret (Text.ofString "602287") 60 = some true ∧
      verifyTotp demoKey demoDigest demoTotpSecret (Text.ofString "۶۰۲۲۸۷") 60 = none ∧
      login (bootstrapUsers fun _ _ => []) (fun _ _ => []) oneByte demoKey demoDigest { authLoginRequire2fa := true }
        (Text.ofString "operator") (Text.ofString "operator") (some (Text.ofString "۶۰۲۲۸۷")) 60 =
          .error internalError ∧
      checkSecondFactor (bootstrapUsers fun _ _ => []) demoKey demoDigest enforcedCfg
        ⟨Text.ofString "admin", .admin, []⟩ (some (Text.ofString "60228²")) 60 = .error internalError := by
  decide +kernel

end Iems.Api
