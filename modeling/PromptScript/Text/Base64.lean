import PromptScript.Text.Utf8

/-!
# Base64

The standard alphabet with padding: three bytes become four characters, and a last group of one
or two bytes is filled up with equals signs.  Reading is strict: the equals signs must be there, and
bits that belong to no byte must be zero.
-/

namespace PromptScript.Text.Base64

/-- The characters of the values from 0 to 63. -/
def alphabet : List Char :=
  "ABCDEFGHIJKLMNOPQRSTUVWXYZabcdefghijklmnopqrstuvwxyz0123456789+/".toList

/-- The character of a value of six bits. -/
def digit (value : Nat) : Char :=
  alphabet.getD (value % 64) 'A'

/-- The characters of a list of bytes. -/
def encodeChars : Bytes → List Char
  | [] => []
  | [a] =>
    let n := a.toNat * 16
    [digit (n / 64), digit n, '=', '=']
  | [a, b] =>
    let n := (a.toNat * 256 + b.toNat) * 4
    [digit (n / 4096), digit (n / 64), digit n, '=']
  | a :: b :: c :: rest =>
    let n := (a.toNat * 256 + b.toNat) * 256 + c.toNat
    digit (n / 262144) :: digit (n / 4096) :: digit (n / 64) :: digit n :: encodeChars rest

/-- The written form of a list of bytes. -/
def encode (bytes : Bytes) : String :=
  String.ofList (encodeChars bytes)

/-- The value of a character of the alphabet. -/
def valueOf? (c : Char) : Option Nat :=
  alphabet.findIdx? (· == c)

/-- The bytes of a list of characters. -/
def decodeChars? : List Char → Option Bytes
  | [] => some []
  | [a, b, '=', '='] => do
    let (x, y) := (← valueOf? a, ← valueOf? b)
    if y % 16 = 0 then return [UInt8.ofNat (x * 4 + y / 16)] else none
  | [a, b, c, '='] => do
    let (x, y, z) := (← valueOf? a, ← valueOf? b, ← valueOf? c)
    if z % 4 = 0 then return [UInt8.ofNat (x * 4 + y / 16), UInt8.ofNat (y % 16 * 16 + z / 4)]
    else none
  | a :: b :: c :: d :: rest => do
    let (x, y, z, w) := (← valueOf? a, ← valueOf? b, ← valueOf? c, ← valueOf? d)
    return UInt8.ofNat (x * 4 + y / 16) :: UInt8.ofNat (y % 16 * 16 + z / 4)
      :: UInt8.ofNat (z % 4 * 64 + w) :: (← decodeChars? rest)
  | _ => none

/-- The bytes that a text writes. -/
def decode? (text : String) : Option Bytes :=
  decodeChars? text.toList

end PromptScript.Text.Base64
