import Refit.Text.Quoted

/-!
# MD5

The digest by which the cache knows its entries.  A message is padded to blocks of 64 bytes; each
block stirs four words of state in 64 steps.
-/

namespace Refit.Digest

structure State where
  a : UInt32
  b : UInt32
  c : UInt32
  d : UInt32

def start : State := ⟨0x67452301, 0xefcdab89, 0x98badcfe, 0x10325476⟩

/-- The constant of each step. -/
def constants : List UInt32 := [
  0xd76aa478, 0xe8c7b756, 0x242070db, 0xc1bdceee, 0xf57c0faf, 0x4787c62a, 0xa8304613, 0xfd469501,
  0x698098d8, 0x8b44f7af, 0xffff5bb1, 0x895cd7be, 0x6b901122, 0xfd987193, 0xa679438e, 0x49b40821,
  0xf61e2562, 0xc040b340, 0x265e5a51, 0xe9b6c7aa, 0xd62f105d, 0x02441453, 0xd8a1e681, 0xe7d3fbc8,
  0x21e1cde6, 0xc33707d6, 0xf4d50d87, 0x455a14ed, 0xa9e3e905, 0xfcefa3f8, 0x676f02d9, 0x8d2a4c8a,
  0xfffa3942, 0x8771f681, 0x6d9d6122, 0xfde5380c, 0xa4beea44, 0x4bdecfa9, 0xf6bb4b60, 0xbebfbc70,
  0x289b7ec6, 0xeaa127fa, 0xd4ef3085, 0x04881d05, 0xd9d4d039, 0xe6db99e5, 0x1fa27cf8, 0xc4ac5665,
  0xf4292244, 0x432aff97, 0xab9423a7, 0xfc93a039, 0x655b59c3, 0x8f0ccc92, 0xffeff47d, 0x85845dd1,
  0x6fa87e4f, 0xfe2ce6e0, 0xa3014314, 0x4e0811a1, 0xf7537e82, 0xbd3af235, 0x2ad7d2bb, 0xeb86d391]

/-- The rotations of four successive steps in each of the four rounds. -/
def rotations : List (List UInt32) :=
  [[7, 12, 17, 22], [5, 9, 14, 20], [4, 11, 16, 23], [6, 10, 15, 21]]

/-- For each step its constant, its rotation, its round and the word of the block that it reads. -/
def steps : List (UInt32 × UInt32 × Nat × Nat) :=
  constants.zipIdx.map fun (k, i) =>
    let round := i / 16
    let word := ([i, 5 * i + 1, 3 * i + 5, 7 * i].getD round 0) % 16
    (k, (rotations.getD round []).getD (i % 4) 0, round, word)

def rotateLeft (x r : UInt32) : UInt32 := (x <<< r) ||| (x >>> (32 - r))

/-- The function that mixes three words of the state in a round. -/
def mix (round : Nat) (b c d : UInt32) : UInt32 :=
  match round with
  | 0 => (b &&& c) ||| (~~~b &&& d)
  | 1 => (d &&& b) ||| (~~~d &&& c)
  | 2 => b ^^^ c ^^^ d
  | _ => c ^^^ (b ||| ~~~d)

def step (block : Array UInt32) (s : State) (entry : UInt32 × UInt32 × Nat × Nat) : State :=
  let (k, r, round, word) := entry
  let sum := s.a + mix round s.b s.c s.d + k + block.getD word 0
  ⟨s.d, s.b + rotateLeft sum r, s.b, s.c⟩

def stir (s : State) (block : Array UInt32) : State :=
  let t := steps.foldl (step block) s
  ⟨s.a + t.a, s.b + t.b, s.c + t.c, s.d + t.d⟩

/-- The lowest `count` bytes of a number, the lowest first. -/
def littleEndian : Nat → Nat → List UInt8
  | 0, _ => []
  | count + 1, n => UInt8.ofNat n :: littleEndian count (n / 256)

/-- The message, a single bit, zeros up to a multiple of 64 bytes, and its length in bits. -/
def padded (message : List UInt8) : List UInt8 :=
  let zeros := (119 - message.length % 64) % 64
  message ++ 0x80 :: List.replicate zeros 0 ++ littleEndian 8 (8 * message.length)

/-- The bytes as words of four bytes, the lowest first. -/
def words : List UInt8 → List UInt32
  | a :: b :: c :: d :: rest =>
    (a.toUInt32 ||| b.toUInt32 <<< 8 ||| c.toUInt32 <<< 16 ||| d.toUInt32 <<< 24) :: words rest
  | _ => []

/-- Takes 16 words at a time. -/
def blocks : Nat → List UInt32 → List (Array UInt32)
  | 0, _ => []
  | fuel + 1, ws => if ws.isEmpty then [] else (ws.take 16).toArray :: blocks fuel (ws.drop 16)

def state (message : List UInt8) : State :=
  let ws := words (padded message)
  (blocks ws.length ws).foldl stir start

def stateBytes (s : State) : List UInt8 :=
  [s.a, s.b, s.c, s.d].flatMap fun w => littleEndian 4 w.toNat

/-- The digest of a text as hexadecimal digits. -/
def md5 (s : String) : String :=
  String.ofList ((stateBytes (state s.toUTF8.toList)).flatMap fun b => Text.hexField 2 b.toNat)

end Refit.Digest
