import PromptScript.Text.Utf8

/-!
# Digests

Short fingerprints of byte texts.  A text is filled up to whole blocks, with its length at the end;
every block then mixes the words of a state.
-/

namespace PromptScript.Text.Digest

/-- A number as bytes, the least significant one first. -/
def littleEndian : Nat → Nat → Bytes
  | 0, _ => []
  | count + 1, number => UInt8.ofNat number :: littleEndian count (number / 256)

/-- A number as bytes, the most significant one first. -/
def bigEndian (count number : Nat) : Bytes :=
  (littleEndian count number).reverse

theorem littleEndian_length (count number : Nat) : (littleEndian count number).length = count := by
  induction count generalizing number with
  | zero => rfl
  | succ count ih => simp [littleEndian, ih]

theorem bigEndian_length (count number : Nat) : (bigEndian count number).length = count := by
  simp [bigEndian, littleEndian_length]

/-- A text filled up to whole blocks; its length in bits stands in the last bytes. -/
def padded (block count : Nat) (encode : Nat → Nat → Bytes) (text : Bytes) : Bytes :=
  let used := (text.length + 1 + count) % block
  text ++ 0x80 :: List.replicate ((block - used) % block) 0 ++ encode count (8 * text.length)

/-- Parts of a list with the given length. -/
def blocks {α : Type} (length : Nat) : Nat → List α → List (List α)
  | 0, _ => []
  | fuel + 1, items =>
    if items.isEmpty then [] else items.take length :: blocks length fuel (items.drop length)

/-- The number that bytes write, the most significant one first. -/
def ofBigEndian (bytes : Bytes) : Nat :=
  bytes.foldl (fun number byte => number * 256 + byte.toNat) 0

/-- The words of a block. -/
def words (width : Nat) (isLittle : Bool) (block : Bytes) : Array (BitVec width) :=
  ((blocks (width / 8) block.length block).map fun bytes =>
    BitVec.ofNat width (ofBigEndian (if isLittle then bytes.reverse else bytes))).toArray

/-- Mixes the blocks of a filled text into a state. -/
def mixAll {σ : Type} (size : Nat) (mix : σ → Bytes → σ) (state : σ) (text : Bytes) : σ :=
  (blocks size text.length text).foldl mix state

/-! ## Four words -/

/-- How far the words are turned in the rounds of the four-word digest. -/
def turns : Array Nat :=
  #[7, 12, 17, 22, 5, 9, 14, 20, 4, 11, 16, 23, 6, 10, 15, 21]

/-- The constants of the four-word digest: the sines of the first numbers. -/
def sines : Array (BitVec 32) :=
  ((List.range 64).map fun place =>
    BitVec.ofNat 32 (Float.abs (Float.sin (place + 1).toFloat) * 4294967296.0).toUInt64.toNat).toArray

/-- Mixes a block into four words. -/
def mixFour (state : List (BitVec 32)) (block : Bytes) : List (BitVec 32) :=
  let given := words 32 true block
  let step (state : List (BitVec 32)) (place : Nat) : List (BitVec 32) :=
    match state with
    | [a, b, c, d] =>
      let (mixed, index) :=
        if place < 16 then ((b &&& c) ||| (~~~b &&& d), place)
        else if place < 32 then ((d &&& b) ||| (~~~d &&& c), (5 * place + 1) % 16)
        else if place < 48 then (b ^^^ c ^^^ d, (3 * place + 5) % 16)
        else (c ^^^ (b ||| ~~~d), 7 * place % 16)
      let sum := mixed + a + sines.getD place 0 + given.getD index 0
      [d, b + sum.rotateLeft (turns.getD (place / 16 * 4 + place % 4) 0), b, c]
    | _ => state
  List.zipWith (· + ·) state ((List.range 64).foldl step state)

/-- The digest of four words. -/
def four (text : Bytes) : Bytes :=
  let start : List (BitVec 32) := [0x67452301, 0xefcdab89, 0x98badcfe, 0x10325476]
  (mixAll 64 mixFour start (padded 64 8 littleEndian text)).flatMap fun word =>
    littleEndian 4 word.toNat

/-! ## Five words -/

/-- Mixes a block into five words. -/
def mixFive (state : List (BitVec 32)) (block : Bytes) : List (BitVec 32) :=
  let schedule := (List.range 64).foldl (fun (made : Array (BitVec 32)) place =>
    let earlier (back : Nat) : BitVec 32 := made.getD (16 + place - back) 0
    made.push ((earlier 3 ^^^ earlier 8 ^^^ earlier 14 ^^^ earlier 16).rotateLeft 1))
    (words 32 false block)
  let step (state : List (BitVec 32)) (place : Nat) : List (BitVec 32) :=
    match state with
    | [a, b, c, d, e] =>
      let (mixed, constant) : BitVec 32 × BitVec 32 :=
        if place < 20 then ((b &&& c) ||| (~~~b &&& d), 0x5a827999)
        else if place < 40 then (b ^^^ c ^^^ d, 0x6ed9eba1)
        else if place < 60 then ((b &&& c) ||| (b &&& d) ||| (c &&& d), 0x8f1bbcdc)
        else (b ^^^ c ^^^ d, 0xca62c1d6)
      [a.rotateLeft 5 + mixed + e + constant + schedule.getD place 0, a, b.rotateLeft 30, c, d]
    | _ => state
  List.zipWith (· + ·) state ((List.range 80).foldl step state)

/-- The digest of five words. -/
def five (text : Bytes) : Bytes :=
  let start : List (BitVec 32) :=
    [0x67452301, 0xefcdab89, 0x98badcfe, 0x10325476, 0xc3d2e1f0]
  (mixAll 64 mixFive start (padded 64 8 bigEndian text)).flatMap fun word =>
    bigEndian 4 word.toNat

/-! ## Eight words -/

/-- The first prime numbers. -/
def primes (count : Nat) : List Nat :=
  ((List.range 512).filter fun number =>
    2 ≤ number && (List.range number).all fun other => other < 2 || number % other ≠ 0).take count

/-- The greatest number whose cube is not greater than another number. -/
def cubeRoot (number : Nat) : Nat :=
  let bits := Nat.log2 number / 3 + 1
  (List.range (bits + 1)).foldl (fun root place =>
    let next := root + Nat.pow 2 (bits - place)
    if next * next * next ≤ number then next else root) 0

/-- The greatest number whose square is not greater than another number. -/
def squareRoot (number : Nat) : Nat :=
  let bits := Nat.log2 number / 2 + 1
  (List.range (bits + 1)).foldl (fun root place =>
    let next := root + Nat.pow 2 (bits - place)
    if next * next ≤ number then next else root) 0

/-- A digest of eight words: the width of the words, the number of rounds, and how far words are
turned. -/
structure EightWords where
  width : Nat
  rounds : Nat
  first : Nat × Nat × Nat
  second : Nat × Nat × Nat
  /-- The third number is how far the word is moved. -/
  early : Nat × Nat × Nat
  late : Nat × Nat × Nat

/-- Words of 32 bits. -/
def EightWords.narrow : EightWords :=
  ⟨32, 64, (2, 13, 22), (6, 11, 25), (7, 18, 3), (17, 19, 10)⟩

/-- Words of 64 bits. -/
def EightWords.wide : EightWords :=
  ⟨64, 80, (28, 34, 39), (14, 18, 41), (1, 8, 7), (19, 61, 6)⟩

namespace EightWords

/-- The bits behind the point of the roots of some primes. -/
def fractions (width : Nat) (roots : List Nat) : List (BitVec width) :=
  roots.map (BitVec.ofNat width)

/-- The constants of the rounds: the fractions of the cube roots of the first primes. -/
def constants (shape : EightWords) : Array (BitVec shape.width) :=
  (fractions shape.width ((primes shape.rounds).map fun prime =>
    cubeRoot (prime * Nat.pow 2 (3 * shape.width)))).toArray

/-- The fractions of the square roots of the first primes. -/
def start (shape : EightWords) : List (BitVec shape.width) :=
  fractions shape.width ((primes 8).map fun prime => squareRoot (prime * Nat.pow 2 (2 * shape.width)))

/-- The fractions of the square roots of the primes that come next, as far as 64 bits go. -/
def otherStart (shape : EightWords) : List (BitVec shape.width) :=
  fractions shape.width (((primes 16).drop 8).map fun prime => squareRoot (prime * Nat.pow 2 128))

/-- A word turned by two numbers, and moved or turned by a third one. -/
def turned {width : Nat} (moves : Bool) (offsets : Nat × Nat × Nat) (word : BitVec width) :
    BitVec width :=
  word.rotateRight offsets.1 ^^^ word.rotateRight offsets.2.1
    ^^^ if moves then word >>> offsets.2.2 else word.rotateRight offsets.2.2

/-- Mixes a block into eight words. -/
def mix (shape : EightWords) (constants : Array (BitVec shape.width))
    (state : List (BitVec shape.width)) (block : Bytes) : List (BitVec shape.width) :=
  let schedule := (List.range (shape.rounds - 16)).foldl
    (fun (made : Array (BitVec shape.width)) place =>
      let earlier (back : Nat) : BitVec shape.width := made.getD (16 + place - back) 0
      made.push (turned true shape.late (earlier 2) + earlier 7
        + turned true shape.early (earlier 15)
        + earlier 16)) (words shape.width false block)
  let step (state : List (BitVec shape.width)) (place : Nat) : List (BitVec shape.width) :=
    match state with
    | [a, b, c, d, e, f, g, h] =>
      let x := h + turned false shape.second e + ((e &&& f) ^^^ (~~~e &&& g))
        + constants.getD place 0 + schedule.getD place 0
      let y := turned false shape.first a + ((a &&& b) ^^^ (a &&& c) ^^^ (b &&& c))
      [x + y, a, b, c, d + x, e, f, g]
    | _ => state
  List.zipWith (· + ·) state ((List.range shape.rounds).foldl step state)

/-- The digest of eight words. -/
def digest (shape : EightWords) (start : List (BitVec shape.width)) (text : Bytes) : Bytes :=
  let filled := padded (2 * shape.width) (shape.width / 4) bigEndian text
  let constants := shape.constants
  (mixAll (2 * shape.width) (shape.mix constants) start filled).flatMap fun word =>
    bigEndian (shape.width / 8) word.toNat

end EightWords

/-! ## Sums -/

/-- The remainder of a division of the text by a polynomial, one byte further. -/
def remainderStep (remainder : BitVec 32) (byte : Nat) : BitVec 32 :=
  (List.range 8).foldl (fun remainder _ =>
    if remainder.msb then (remainder <<< 1) ^^^ 0x04c11db7 else remainder <<< 1)
    (remainder ^^^ (BitVec.ofNat 32 byte <<< 24))

/-- The cyclic sum of a text and its length. -/
def cyclicSum (text : Bytes) : Nat :=
  let length := text.length
  let count := if length = 0 then 0 else Nat.log2 length / 8 + 1
  let whole := text ++ littleEndian count length
  (~~~(whole.foldl (fun remainder byte => remainderStep remainder byte.toNat) 0)).toNat

/-- The sum of 16 bits that is turned before each byte. -/
def turnedSum (text : Bytes) : Nat :=
  (text.foldl (fun (sum : BitVec 16) byte => sum.rotateRight 1 + BitVec.ofNat 16 byte.toNat)
    0).toNat

/-- The plain sum of the bytes, folded into 16 bits. -/
def plainSum (text : Bytes) : Nat :=
  let sum := (text.foldl (fun sum byte => sum + byte.toNat) 0) % 0x100000000
  let folded := sum % 0x10000 + sum / 0x10000
  folded % 0x10000 + folded / 0x10000

end PromptScript.Text.Digest
