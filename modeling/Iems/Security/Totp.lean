import Iems.Core.Text
import Mathlib.Data.Rat.Floor

/-! Time-based one-time passwords. -/
namespace Iems.Security
open Iems.Core

abbrev Bytes := List UInt8

/-- `hmac.compare_digest` on strings: `none` where it raises on a character outside ASCII. -/
def compareDigest (a b : Text) : Option Bool :=
  if a.all isAscii && b.all isAscii then some (a == b) else none

/-- Characters with a digit value that are no decimal digits, as inclusive ranges. -/
def digitRanges : List (Nat × Nat) :=
  [(0xB2, 0xB3), (0xB9, 0xB9), (0x1369, 0x1371), (0x19DA, 0x19DA), (0x2070, 0x2070), (0x2074, 0x2079),
    (0x2080, 0x2089), (0x2460, 0x2468), (0x2474, 0x247C), (0x2488, 0x2490), (0x24EA, 0x24EA),
    (0x24F5, 0x24FD), (0x24FF, 0x24FF), (0x2776, 0x277E), (0x2780, 0x2788), (0x278A, 0x2792),
    (0x10A40, 0x10A43), (0x10E60, 0x10E68), (0x11052, 0x1105A), (0x1F100, 0x1F10A)]

def isDigit (c : CodePoint) : Bool :=
  (decimalValue c).isSome || digitRanges.any fun (first, last) => first ≤ c.val && c.val ≤ last

/-- `struct.pack(">Q", counter)`. -/
def packCounter (counter : Int) : Option Bytes :=
  if 0 ≤ counter ∧ counter < 2 ^ 64 then
    some ((List.range 8).reverse.map fun i => UInt8.ofNat (counter.toNat / 256 ^ i))
  else none

/-- `struct.unpack(">I", word)`. -/
def unpackWord (word : Bytes) : Option Nat :=
  if word.length = 4 then some (word.foldl (fun value byte => value * 256 + byte.toNat) 0) else none

def zfill (width : Nat) (text : Text) : Text := List.replicate (width - text.length) 0x30 ++ text

section
variable (b32decode : String → Option Bytes) (hmacSha1 : Bytes → Bytes → Bytes)

/-- The secrets are ASCII. -/
def normalizeSecret (secret : String) : Option Bytes :=
  let padded := ((strip secret.toList).filter (· ≠ ' ')).map Char.toUpper
  b32decode (String.ofList (padded ++ List.replicate ((8 - padded.length % 8) % 8) '='))

/-- Six digits for the step of thirty seconds that the time falls into; `none` where it raises. -/
def totp (secret : String) (forTime : ℚ) : Option Text := do
  let key ← normalizeSecret b32decode secret
  let msg ← packCounter ⌊forTime / 30⌋
  let digest := hmacSha1 key msg
  let last ← digest.getLast?
  let offset := last.toNat % 16
  let word ← unpackWord ((digest.drop offset).take 4)
  return zfill 6 (natText (word % 0x80000000 % 10 ^ 6))

/-- The loop over the window of steps. -/
def matchesStep (secret : String) (code : Text) (now : ℚ) : List Int → Option Bool
  | [] => some false
  | skew :: rest => do
    let expected ← totp b32decode hmacSha1 secret (now + skew * 30)
    let same ← compareDigest expected code.strip
    if same then return true else matchesStep secret code now rest

def verifyTotp (secret : String) (code : Text) (now : ℚ) : Option Bool :=
  if code.isEmpty || !code.all isDigit then some false
  else matchesStep b32decode hmacSha1 secret code now [-1, 0, 1]

end
end Iems.Security
