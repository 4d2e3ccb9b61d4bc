set_option autoImplicit false

/-!
# Digests

A digest is a short number that depends on all of a content. Contents are cut into blocks, after
their length has been put at their end, and each block changes a few words.

## Main definitions

* `Script.Digest.md5`, `Script.Digest.sha1`, `Script.Digest.sha2` — digests of bytes.
* `Script.Digest.crc`, `Script.Digest.rotatedSum`, `Script.Digest.plainSum` — shorter sums of bytes.
-/

namespace Compositor.Script.Digest

/-! ## Blocks -/

/-- A number in base 256 with so many digits, the least one first. -/
def littleBytes (count n : Nat) : List UInt8 :=
  (List.range count).map fun i => (n / Nat.pow 256 i % 256).toUInt8

/-- A content that is filled up to whole blocks, with its length in bits at the end. -/
def filled (blockSize lengthSize : Nat) (isLittle : Bool) (content : ByteArray) : ByteArray :=
  let used := content.size + 1 + lengthSize
  let missing := (blockSize - used % blockSize) % blockSize
  let digits := littleBytes lengthSize (8 * content.size)
  ⟨(content.push 0x80).data ++ Array.replicate missing 0 ++
    (if isLittle then digits else digits.reverse).toArray⟩

/-- The number that bytes from a place on stand for, the greatest digit first. -/
def bigNumber (bytes : ByteArray) (start count : Nat) : Nat :=
  (List.range count).foldl (fun n i => 256 * n + (bytes.data.getD (start + i) 0).toNat) 0

/-- The number that bytes from a place on stand for, the least digit first. -/
def littleNumber (bytes : ByteArray) (start count : Nat) : Nat :=
  (List.range count).foldr (fun i n => 256 * n + (bytes.data.getD (start + i) 0).toNat) 0

/-- A word of 32 bits turned to the left. -/
def turnLeft (w : UInt32) (n : UInt32) : UInt32 :=
  (w <<< n) ||| (w >>> (32 - n))

/-- A word of 32 bits turned to the right. -/
def turnRight (w : UInt32) (n : UInt32) : UInt32 :=
  (w >>> n) ||| (w <<< (32 - n))

/-- A word of 64 bits turned to the right. -/
def turnRightLong (w : UInt64) (n : UInt64) : UInt64 :=
  (w >>> n) ||| (w <<< (64 - n))

/-- A number in hexadecimal digits, with zeros in front. -/
def hexadecimal (width n : Nat) : String :=
  let digits := Nat.toDigits 16 n
  String.ofList (List.replicate (width - digits.length) '0' ++ digits)

/-! ## MD5 -/

/-- The amounts by which words are turned. -/
def md5Turns : Array UInt32 :=
  #[7, 12, 17, 22, 5, 9, 14, 20, 4, 11, 16, 23, 6, 10, 15, 21]

/-- The constants that are added in the rounds. -/
def md5Constants : Array UInt32 :=
  #[0xd76aa478, 0xe8c7b756, 0x242070db, 0xc1bdceee, 0xf57c0faf, 0x4787c62a, 0xa8304613, 0xfd469501,
    0x698098d8, 0x8b44f7af, 0xffff5bb1, 0x895cd7be, 0x6b901122, 0xfd987193, 0xa679438e, 0x49b40821,
    0xf61e2562, 0xc040b340, 0x265e5a51, 0xe9b6c7aa, 0xd62f105d, 0x02441453, 0xd8a1e681, 0xe7d3fbc8,
    0x21e1cde6, 0xc33707d6, 0xf4d50d87, 0x455a14ed, 0xa9e3e905, 0xfcefa3f8, 0x676f02d9, 0x8d2a4c8a,
    0xfffa3942, 0x8771f681, 0x6d9d6122, 0xfde5380c, 0xa4beea44, 0x4bdecfa9, 0xf6bb4b60, 0xbebfbc70,
    0x289b7ec6, 0xeaa127fa, 0xd4ef3085, 0x04881d05, 0xd9d4d039, 0xe6db99e5, 0x1fa27cf8, 0xc4ac5665,
    0xf4292244, 0x432aff97, 0xab9423a7, 0xfc93a039, 0x655b59c3, 0x8f0ccc92, 0xffeff47d, 0x85845dd1,
    0x6fa87e4f, 0xfe2ce6e0, 0xa3014314, 0x4e0811a1, 0xf7537e82, 0xbd3af235, 0x2ad7d2bb, 0xeb86d391]

/-- One round of MD5 on four words. -/
def md5Round (word : Nat → UInt32) (state : UInt32 × UInt32 × UInt32 × UInt32) (i : Nat) :
    UInt32 × UInt32 × UInt32 × UInt32 :=
  let (a, b, c, d) := state
  let (f, g) :=
    if i < 16 then ((b &&& c) ||| (~~~b &&& d), i)
    else if i < 32 then ((d &&& b) ||| (~~~d &&& c), (5 * i + 1) % 16)
    else if i < 48 then (b ^^^ c ^^^ d, (3 * i + 5) % 16)
    else (c ^^^ (b ||| ~~~d), 7 * i % 16)
  let sum := a + f + md5Constants.getD i 0 + word g
  (d, b + turnLeft sum (md5Turns.getD (i / 16 * 4 + i % 4) 0), b, c)

/-- The MD5 digest of a content. -/
def md5 (content : ByteArray) : String :=
  let bytes := filled 64 8 true content
  let step (state : UInt32 × UInt32 × UInt32 × UInt32) (block : Nat) :
      UInt32 × UInt32 × UInt32 × UInt32 :=
    let words := ((List.range 16).map fun i =>
      (littleNumber bytes (64 * block + 4 * i) 4).toUInt32).toArray
    let (a, b, c, d) := (List.range 64).foldl (md5Round fun g => words.getD g 0) state
    let (a', b', c', d') := state
    (a' + a, b' + b, c' + c, d' + d)
  let (a, b, c, d) := (List.range (bytes.size / 64)).foldl step
    (0x67452301, 0xefcdab89, 0x98badcfe, 0x10325476)
  String.join ([a, b, c, d].map fun w =>
    String.join ((littleBytes 4 w.toNat).map fun byte => hexadecimal 2 byte.toNat))

/-! ## SHA-1 -/

/-- The words of a block, with those that are made from them. -/
def sha1Words (bytes : ByteArray) (block : Nat) : Array UInt32 :=
  let first := ((List.range 16).map fun i =>
    (bigNumber bytes (64 * block + 4 * i) 4).toUInt32).toArray
  (List.range 64).foldl
    (fun words i =>
      let at_ (k : Nat) : UInt32 := words.getD (i + 16 - k) 0
      words.push (turnLeft (at_ 3 ^^^ at_ 8 ^^^ at_ 14 ^^^ at_ 16) 1))
    first

/-- One round of SHA-1 on five words. -/
def sha1Round (words : Array UInt32) (state : List UInt32) (i : Nat) : List UInt32 :=
  match state with
  | [a, b, c, d, e] =>
    let (f, k) : UInt32 × UInt32 :=
      if i < 20 then ((b &&& c) ||| (~~~b &&& d), 0x5a827999)
      else if i < 40 then (b ^^^ c ^^^ d, 0x6ed9eba1)
      else if i < 60 then ((b &&& c) ||| (b &&& d) ||| (c &&& d), 0x8f1bbcdc)
      else (b ^^^ c ^^^ d, 0xca62c1d6)
    [turnLeft a 5 + f + e + k + words.getD i 0, a, turnLeft b 30, c, d]
  | _ => state

/-- The SHA-1 digest of a content. -/
def sha1 (content : ByteArray) : String :=
  let bytes := filled 64 8 false content
  let step (state : List UInt32) (block : Nat) : List UInt32 :=
    let words := sha1Words bytes block
    ((List.range 80).foldl (sha1Round words) state).zipWith (· + ·) state
  let words := (List.range (bytes.size / 64)).foldl step
    [0x67452301, 0xefcdab89, 0x98badcfe, 0x10325476, 0xc3d2e1f0]
  String.join (words.map fun w => hexadecimal 8 w.toNat)

/-! ## SHA-2 -/

/-- The first so many prime numbers. -/
def primes (count : Nat) : List Nat :=
  ((List.range 410).filter fun n =>
    2 ≤ n && (List.range n).all fun d => d < 2 || n % d ≠ 0).take count

/-- The greatest number whose power is not above a number, found by halving. -/
def rootUpTo (power n : Nat) : Nat → Nat → Nat → Nat
  | 0, low, _ => low
  | fuel + 1, low, high =>
    if high ≤ low + 1 then low
    else
      let middle := (low + high) / 2
      if Nat.pow middle power ≤ n then rootUpTo power n fuel middle high
      else rootUpTo power n fuel low middle

/-- The first bits after the point of a root of a number. -/
def rootBits (power bits n : Nat) : Nat :=
  rootUpTo power (n * Nat.pow 2 (power * bits)) 200 0 (Nat.pow 2 (bits + 5)) % Nat.pow 2 bits

/-- The constants of SHA-256. -/
def shortConstants : Array UInt32 :=
  ((primes 64).map fun p => (rootBits 3 32 p).toUInt32).toArray

/-- The constants of SHA-512. -/
def longConstants : Array UInt64 :=
  ((primes 80).map fun p => (rootBits 3 64 p).toUInt64).toArray

/-- The words of a block for SHA-256, with those that are made from them. -/
def shortWords (bytes : ByteArray) (block : Nat) : Array UInt32 :=
  let first := ((List.range 16).map fun i =>
    (bigNumber bytes (64 * block + 4 * i) 4).toUInt32).toArray
  (List.range 48).foldl
    (fun words i =>
      let at_ (k : Nat) : UInt32 := words.getD (i + 16 - k) 0
      let s := turnRight (at_ 15) 7 ^^^ turnRight (at_ 15) 18 ^^^ (at_ 15 >>> 3)
      let t := turnRight (at_ 2) 17 ^^^ turnRight (at_ 2) 19 ^^^ (at_ 2 >>> 10)
      words.push (at_ 16 + s + at_ 7 + t))
    first

/-- The words of a block for SHA-512, with those that are made from them. -/
def longWords (bytes : ByteArray) (block : Nat) : Array UInt64 :=
  let first := ((List.range 16).map fun i =>
    (bigNumber bytes (128 * block + 8 * i) 8).toUInt64).toArray
  (List.range 64).foldl
    (fun words i =>
      let at_ (k : Nat) : UInt64 := words.getD (i + 16 - k) 0
      let s := turnRightLong (at_ 15) 1 ^^^ turnRightLong (at_ 15) 8 ^^^ (at_ 15 >>> 7)
      let t := turnRightLong (at_ 2) 19 ^^^ turnRightLong (at_ 2) 61 ^^^ (at_ 2 >>> 6)
      words.push (at_ 16 + s + at_ 7 + t))
    first

/-- One round of SHA-256 on eight words. -/
def shortRound (constants words : Array UInt32) (state : List UInt32) (i : Nat) : List UInt32 :=
  match state with
  | [a, b, c, d, e, f, g, h] =>
    let s := turnRight e 6 ^^^ turnRight e 11 ^^^ turnRight e 25
    let one := h + s + ((e &&& f) ^^^ (~~~e &&& g)) + constants.getD i 0 + words.getD i 0
    let t := turnRight a 2 ^^^ turnRight a 13 ^^^ turnRight a 22
    let two := t + ((a &&& b) ^^^ (a &&& c) ^^^ (b &&& c))
    [one + two, a, b, c, d + one, e, f, g]
  | _ => state

/-- One round of SHA-512 on eight words. -/
def longRound (constants words : Array UInt64) (state : List UInt64) (i : Nat) : List UInt64 :=
  match state with
  | [a, b, c, d, e, f, g, h] =>
    let s := turnRightLong e 14 ^^^ turnRightLong e 18 ^^^ turnRightLong e 41
    let one := h + s + ((e &&& f) ^^^ (~~~e &&& g)) + constants.getD i 0 + words.getD i 0
    let t := turnRightLong a 28 ^^^ turnRightLong a 34 ^^^ turnRightLong a 39
    let two := t + ((a &&& b) ^^^ (a &&& c) ^^^ (b &&& c))
    [one + two, a, b, c, d + one, e, f, g]
  | _ => state

/-- The words with which digests of the second family begin. -/
def initial (bits : Nat) : List Nat :=
  match bits with
  | 224 => (((primes 16).drop 8).map (rootBits 2 64)).map (· % 0x100000000)
  | 256 => (primes 8).map (rootBits 2 32)
  | 384 => ((primes 16).drop 8).map (rootBits 2 64)
  | _ => (primes 8).map (rootBits 2 64)

/-- The digest of a content with so many bits, of the second family. -/
def sha2 (bits : Nat) (content : ByteArray) : String :=
  let all := if bits ≤ 256 then
      let bytes := filled 64 8 false content
      let constants := shortConstants
      let step (state : List UInt32) (block : Nat) : List UInt32 :=
        let words := shortWords bytes block
        ((List.range 64).foldl (shortRound constants words) state).zipWith (· + ·) state
      let last := (List.range (bytes.size / 64)).foldl step ((initial bits).map Nat.toUInt32)
      String.join (last.map fun w => hexadecimal 8 w.toNat)
    else
      let bytes := filled 128 16 false content
      let constants := longConstants
      let step (state : List UInt64) (block : Nat) : List UInt64 :=
        let words := longWords bytes block
        ((List.range 80).foldl (longRound constants words) state).zipWith (· + ·) state
      let last := (List.range (bytes.size / 128)).foldl step ((initial bits).map Nat.toUInt64)
      String.join (last.map fun w => hexadecimal 16 w.toNat)
  String.ofList (all.toList.take (bits / 4))

/-! ## Sums -/

/-- A sum of bytes with the carry of a division by a polynomial, to which a byte is added. -/
def crcStep (sum : UInt32) (byte : UInt8) : UInt32 :=
  let start := sum ^^^ (byte.toUInt32 <<< 24)
  Nat.repeat
    (fun w : UInt32 => if w &&& 0x80000000 ≠ 0 then (w <<< 1) ^^^ 0x04c11db7 else w <<< 1)
    8 start

/-- The digits of a number in base 256, the least one first, as far as the fuel goes. -/
def digitsOf : Nat → Nat → List UInt8
  | 0, _ => []
  | fuel + 1, n => if n = 0 then [] else (n % 256).toUInt8 :: digitsOf fuel (n / 256)

/-- The remainder of a content and its length in a division by a polynomial. -/
def crc (content : ByteArray) : Nat :=
  let sum := content.data.foldl crcStep 0
  (~~~((digitsOf 16 content.size).foldl crcStep sum)).toNat

/-- A sum of bytes that is turned before each of them. -/
def rotatedSum (content : ByteArray) : Nat :=
  content.data.foldl
    (fun sum byte => ((sum / 2 + sum % 2 * 32768) + byte.toNat) % 65536) 0

/-- A sum of bytes whose carries are added to it. -/
def plainSum (content : ByteArray) : Nat :=
  let sum := content.data.foldl (fun sum byte => sum + byte.toNat) 0
  let once := sum % 65536 + sum % 0x100000000 / 65536
  once % 65536 + once / 65536

end Compositor.Script.Digest
