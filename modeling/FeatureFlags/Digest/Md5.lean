/-!
# The MD5 digest

`Md5.digest` pads a byte string, splits it into blocks of 64 bytes, and updates four 32-bit words by
64 rounds for each block (`absorb`).
-/

namespace FeatureFlags.Md5

/-- The four words of the digest while it is computed. -/
structure State where
  a : UInt32
  b : UInt32
  c : UInt32
  d : UInt32
  deriving DecidableEq, Repr

/-- The words before the first block. -/
def initial : State := ⟨0x67452301, 0xefcdab89, 0x98badcfe, 0x10325476⟩

/-- The constant that each round adds. -/
def sines : List UInt32 :=
  [0xd76aa478, 0xe8c7b756, 0x242070db, 0xc1bdceee, 0xf57c0faf, 0x4787c62a, 0xa8304613, 0xfd469501,
   0x698098d8, 0x8b44f7af, 0xffff5bb1, 0x895cd7be, 0x6b901122, 0xfd987193, 0xa679438e, 0x49b40821,
   0xf61e2562, 0xc040b340, 0x265e5a51, 0xe9b6c7aa, 0xd62f105d, 0x02441453, 0xd8a1e681, 0xe7d3fbc8,
   0x21e1cde6, 0xc33707d6, 0xf4d50d87, 0x455a14ed, 0xa9e3e905, 0xfcefa3f8, 0x676f02d9, 0x8d2a4c8a,
   0xfffa3942, 0x8771f681, 0x6d9d6122, 0xfde5380c, 0xa4beea44, 0x4bdecfa9, 0xf6bb4b60, 0xbebfbc70,
   0x289b7ec6, 0xeaa127fa, 0xd4ef3085, 0x04881d05, 0xd9d4d039, 0xe6db99e5, 0x1fa27cf8, 0xc4ac5665,
   0xf4292244, 0x432aff97, 0xab9423a7, 0xfc93a039, 0x655b59c3, 0x8f0ccc92, 0xffeff47d, 0x85845dd1,
   0x6fa87e4f, 0xfe2ce6e0, 0xa3014314, 0x4e0811a1, 0xf7537e82, 0xbd3af235, 0x2ad7d2bb, 0xeb86d391]

/-- By how many bits a round turns its word. -/
def turn (round : Nat) : UInt32 :=
  let row : List UInt32 := match round / 16 with
    | 0 => [7, 12, 17, 22]
    | 1 => [5, 9, 14, 20]
    | 2 => [4, 11, 16, 23]
    | _ => [6, 10, 15, 21]
  row.getD (round % 4) 0

def rotate (x n : UInt32) : UInt32 := (x <<< n) ||| (x >>> (32 - n))

/-- What a round mixes from three words, and the number of the block's word that it takes in. -/
def mix (s : State) (round : Nat) : UInt32 × Nat :=
  match round / 16 with
  | 0 => ((s.b &&& s.c) ||| (~~~s.b &&& s.d), round)
  | 1 => ((s.d &&& s.b) ||| (~~~s.d &&& s.c), (5 * round + 1) % 16)
  | 2 => (s.b ^^^ s.c ^^^ s.d, (3 * round + 5) % 16)
  | _ => (s.c ^^^ (s.b ||| ~~~s.d), (7 * round) % 16)

/-- One round on a block of sixteen words. -/
def stir (block : Array UInt32) (s : State) (round : Nat × UInt32) : State :=
  let (f, g) := mix s round.1
  let x := s.a + f + round.2 + block.getD g 0
  ⟨s.d, s.b + rotate x (turn round.1), s.b, s.c⟩

/-- The words after a block. -/
def absorb (s : State) (block : Array UInt32) : State :=
  let t := ((List.range 64).zip sines).foldl (stir block) s
  ⟨s.a + t.a, s.b + t.b, s.c + t.c, s.d + t.d⟩

/-- The bytes of a number, the lowest first. -/
def littleEndian (count n : Nat) : List UInt8 :=
  (List.range count).map fun i => UInt8.ofNat (n / Nat.pow 256 i % 256)

/-- A message filled up to whole blocks: a mark, zeros, and its length in bits. -/
def pad (bytes : List UInt8) : List UInt8 :=
  bytes ++ 0x80 :: List.replicate ((119 - bytes.length % 64) % 64) 0
    ++ littleEndian 8 (8 * bytes.length)

/-- The words of bytes in groups of four, the lowest byte first. -/
def words : List UInt8 → List UInt32
  | a :: b :: c :: d :: rest =>
    (a.toUInt32 ||| b.toUInt32 <<< 8 ||| c.toUInt32 <<< 16 ||| d.toUInt32 <<< 24) :: words rest
  | _ => []

/-- The words after whole blocks; the first argument bounds their number. -/
def absorbAll : Nat → State → List UInt32 → State
  | 0, s, _ => s
  | fuel + 1, s, ws =>
    if ws.isEmpty then s else absorbAll fuel (absorb s (ws.take 16).toArray) (ws.drop 16)

def digest (bytes : List UInt8) : List UInt8 :=
  let ws := words (pad bytes)
  let s := absorbAll ws.length initial ws
  [s.a, s.b, s.c, s.d].flatMap fun w => littleEndian 4 w.toNat

def digestOfText (s : String) : List UInt8 := digest s.toUTF8.toList

def hexDigest (s : String) : String :=
  String.ofList ((digestOfText s).flatMap fun b =>
    [Nat.digitChar (b.toNat / 16), Nat.digitChar (b.toNat % 16)])

end FeatureFlags.Md5
