import Iems.Services.Auth

/-! The local users: their passwords, second factors and permissions. -/
namespace Iems.Services
open Lib Iems.Core Iems.Security

structure LocalUser where
  passwordHash : Text
  role : Role
  totpSecret : Option String

def demoTotpSecret : String := "JBSWY3DPEHPK3PXP"

def dollar : CodePoint := 0x24

def hexValue (c : CodePoint) : Option Nat :=
  if 0x30 ≤ c.val ∧ c.val ≤ 0x39 then some (c.val - 0x30)
  else if 0x61 ≤ c.val ∧ c.val ≤ 0x66 then some (c.val - 0x57)
  else if 0x41 ≤ c.val ∧ c.val ≤ 0x46 then some (c.val - 0x37)
  else none

/-- `bytes.fromhex`: spaces may stand between the bytes. -/
def fromHex : Text → Option Bytes
  | [] => some []
  | high :: rest =>
    if (0x09 ≤ high.val ∧ high.val ≤ 0x0D) ∨ high.val = 0x20 then fromHex rest
    else
      match rest with
      | [] => none
      | low :: rest => do
        let h ← hexValue high
        let l ← hexValue low
        let bytes ← fromHex rest
        return UInt8.ofNat (h * 16 + l) :: bytes

section
variable (pbkdf2 : String → Bytes → Bytes)

def encodeHash (password : String) (salt : Text) (saltBytes : Bytes) : Text :=
  Text.ofString "pbkdf2_sha256$" ++ salt ++ dollar :: hexdigest (pbkdf2 password saltBytes)

def hashPassword (password salt : Text) : Option Text := do
  let saltBytes ← fromHex salt
  let encoded ← password.encode?
  return encodeHash pbkdf2 encoded salt saltBytes

/-- `none` where the comparison of the hashes raises. -/
def verifyPassword (password encoded : Text) : Option Bool :=
  match splitMax dollar 2 encoded with
  | [algo, salt, _] =>
    if algo ≠ Text.ofString "pbkdf2_sha256" then some false
    else
      match hashPassword pbkdf2 password salt with
      | none => some false
      | some candidate => compareDigest candidate encoded
  | _ => some false

/-- A user whose salt repeats one byte, and with it one pair of digits. -/
def bootstrapUser (name : String) (digit : Char) (byte : UInt8) (role : Role) (totpSecret : Option String) : LocalUser :=
  { passwordHash := encodeHash pbkdf2 name (List.replicate 32 (codePoint digit)) (List.replicate 16 byte)
    role := role
    totpSecret := totpSecret }

def bootstrapUsers : Dict Text LocalUser :=
  ((Dict.empty.set (Text.ofString "viewer") (bootstrapUser pbkdf2 "viewer" '1' 0x11 .viewer none)).set
    (Text.ofString "operator") (bootstrapUser pbkdf2 "operator" '2' 0x22 .operator (some demoTotpSecret))).set
    (Text.ofString "admin") (bootstrapUser pbkdf2 "admin" '3' 0x33 .admin (some demoTotpSecret))

end

section
variable (users : Dict Text LocalUser) (pbkdf2 : String → Bytes → Bytes) (hmacSha256 : String → String → Bytes)
  (b32decode : String → Option Bytes) (hmacSha1 : Bytes → Bytes → Bytes)

/-- An empty code counts as none. -/
def givenCode (totpCode : Option Text) : Option Text := totpCode.filter fun code => !code.isEmpty

/-- `none` where it raises. -/
def authenticate (cfg : Settings) (username password : Text) (totpCode : Option Text) (require2fa : Bool) (now : ℚ) :
    Option AuthResult :=
  match users.get? username with
  | none => some { ok := false, detail := "Invalid credentials" }
  | some user =>
    match verifyPassword pbkdf2 password user.passwordHash with
    | none => none
    | some false => some { ok := false, detail := "Invalid credentials" }
    | some true =>
      let login : Option AuthResult :=
        (issueToken hmacSha256 cfg username user.role none now).map fun token =>
          { ok := true, username := some username, role := some user.role, requires2fa := user.totpSecret.isSome,
            token := some token }
      match user.totpSecret with
      | none => login
      | some secret =>
        if require2fa || cfg.authLoginRequire2fa then
          match givenCode totpCode with
          | none =>
            some { ok := false, username := some username, role := some user.role, requires2fa := true,
                   detail := "2FA required" }
          | some code =>
            match verifyTotp b32decode hmacSha1 secret code now with
            | none => none
            | some false =>
              some { ok := false, username := some username, role := some user.role, requires2fa := true,
                     detail := "Invalid 2FA code" }
            | some true => login
        else login

/-- `none` where it raises. A local user without a secret needs no code. -/
def verifySettings2fa (username : Text) (totpCode : Option Text) (now : ℚ) : Option Bool :=
  match users.get? username with
  | none => some false
  | some user =>
    match user.totpSecret with
    | none => some true
    | some secret =>
      match givenCode totpCode with
      | none => some false
      | some code => verifyTotp b32decode hmacSha1 secret code now

def enrolledSecret (username : Text) : Option String := (users.get? username).bind LocalUser.totpSecret

end

def allowedRoles (action : String) : List Role :=
  if action = "read" then [.viewer, .operator, .admin]
  else if action = "predict" ∨ action = "operate" ∨ action = "train" then [.operator, .admin]
  else if action = "apply" ∨ action = "settings" then [.admin]
  else []

def roleAllows (role : Role) (action : String) : Bool := role ∈ allowedRoles action

end Iems.Services
