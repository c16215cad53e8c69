import PromptScript.Text.Basic

/-!
# UTF-8

Texts as bytes.  Reading is strict, or lenient: then each longest run of bytes that begins a
character but does not complete one is read as the replacement character.
-/

namespace PromptScript.Text

/-- The content of a file or of a stream. -/
abbrev Bytes := List UInt8

/-- What stands at the beginning of a list of bytes. -/
inductive Utf8Head where
  | char (c : Char) (rest : Bytes)
  /-- A run of bytes that begins no character, or begins one and does not complete it. -/
  | broken (rest : Bytes)

/-- Whether a byte continues a character. -/
def isTail (byte : UInt8) : Bool :=
  0x80 ≤ byte && byte ≤ 0xBF

/-- Whether a second byte may stand behind the first byte of a character of three or four
bytes. -/
def admitsSecond (first second : UInt8) : Bool :=
  if first = 0xE0 then 0xA0 ≤ second && second ≤ 0xBF
  else if first = 0xED then 0x80 ≤ second && second ≤ 0x9F
  else if first = 0xF0 then 0x90 ≤ second && second ≤ 0xBF
  else if first = 0xF4 then 0x80 ≤ second && second ≤ 0x8F
  else isTail second

/-- The character made of the six low bits of each tail and the bits of the first byte. -/
def charOfBytes (lead : Nat) (tails : List UInt8) : Char :=
  Char.ofNat (tails.foldl (fun code byte => code * 64 + byte.toNat % 64) lead)

/-- Reads the beginning of a list of bytes. -/
def utf8Head (first : UInt8) (rest : Bytes) : Utf8Head :=
  if first < 0x80 then .char (Char.ofNat first.toNat) rest
  else if 0xC2 ≤ first && first ≤ 0xDF then
    match rest with
    | b :: rest' =>
      if isTail b then .char (charOfBytes (first.toNat % 32) [b]) rest' else .broken rest
    | [] => .broken []
  else if 0xE0 ≤ first && first ≤ 0xEF then
    match rest with
    | b :: rest' =>
      if admitsSecond first b then
        match rest' with
        | c :: rest'' =>
          if isTail c then .char (charOfBytes (first.toNat % 16) [b, c]) rest'' else .broken rest'
        | [] => .broken []
      else .broken rest
    | [] => .broken []
  else if 0xF0 ≤ first && first ≤ 0xF4 then
    match rest with
    | b :: rest' =>
      if admitsSecond first b then
        match rest' with
        | c :: rest'' =>
          if isTail c then
            match rest'' with
            | d :: rest''' =>
              if isTail d then .char (charOfBytes (first.toNat % 8) [b, c, d]) rest'''
              else .broken rest''
            | [] => .broken []
          else .broken rest'
        | [] => .broken []
      else .broken rest
    | [] => .broken []
  else .broken rest

/-- Reads bytes into characters, with none for each broken run.  The fuel bounds the number of
bytes. -/
def utf8Runs : Nat → Bytes → List (Option Char)
  | 0, _ => []
  | _, [] => []
  | fuel + 1, first :: rest =>
    match utf8Head first rest with
    | .char c later => some c :: utf8Runs fuel later
    | .broken later => none :: utf8Runs fuel later

/-- Where bytes cease to be UTF-8. -/
inductive Utf8Fault where
  /-- The bytes end within a character. -/
  | cut (index : Nat)
  /-- A run of so many bytes begins no character. -/
  | broken (index length : Nat)
  deriving DecidableEq, Repr

/-- The wording of a fault. -/
def Utf8Fault.message : Utf8Fault → String
  | cut index => "incomplete utf-8 byte sequence from index " ++ toString index
  | broken index length =>
    "invalid utf-8 sequence of " ++ toString length ++ " bytes from index " ++ toString index

/-- The first place where bytes cease to be UTF-8.  The fuel bounds the number of bytes. -/
def utf8Fault? : (fuel index : Nat) → Bytes → Option Utf8Fault
  | 0, _, _ => none
  | _, _, [] => none
  | fuel + 1, index, first :: rest =>
    match utf8Head first rest with
    | .char _ later => utf8Fault? fuel (index + (rest.length + 1 - later.length)) later
    | .broken later =>
      if later.isEmpty && 0xC2 ≤ first && first ≤ 0xF4 then some (.cut index)
      else some (.broken index (rest.length + 1 - later.length))

/-- The text of the bytes, where they are UTF-8. -/
def ofBytes? (bytes : Bytes) : Option String :=
  ((utf8Runs bytes.length bytes).mapM id).map String.ofList

/-- The text of the bytes, with the replacement character for each broken run. -/
def ofBytesLenient (bytes : Bytes) : String :=
  String.ofList ((utf8Runs bytes.length bytes).map fun run => run.getD '\uFFFD')

/-- The bytes of a text. -/
def toBytes (text : String) : Bytes :=
  text.toUTF8.toList

end PromptScript.Text
