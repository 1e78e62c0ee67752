import ComponentQueries.Digest.Blocks

/-! The digest under which results are kept. -/
namespace ComponentQueries.Digest.Md5

/-- The chaining value between two blocks. -/
structure State where
  a : UInt32
  b : UInt32
  c : UInt32
  d : UInt32

def initial : State := ⟨0x67452301, 0xefcdab89, 0x98badcfe, 0x10325476⟩

/-- The constant added in each of the 64 steps: the sine of the step number. -/
def sines : List UInt32 :=
  [0xd76aa478, 0xe8c7b756, 0x242070db, 0xc1bdceee, 0xf57c0faf, 0x4787c62a,
   0xa8304613, 0xfd469501, 0x698098d8, 0x8b44f7af, 0xffff5bb1, 0x895cd7be,
   0x6b901122, 0xfd987193, 0xa679438e, 0x49b40821, 0xf61e2562, 0xc040b340,
   0x265e5a51, 0xe9b6c7aa, 0xd62f105d, 0x02441453, 0xd8a1e681, 0xe7d3fbc8,
   0x21e1cde6, 0xc33707d6, 0xf4d50d87, 0x455a14ed, 0xa9e3e905, 0xfcefa3f8,
   0x676f02d9, 0x8d2a4c8a, 0xfffa3942, 0x8771f681, 0x6d9d6122, 0xfde5380c,
   0xa4beea44, 0x4bdecfa9, 0xf6bb4b60, 0xbebfbc70, 0x289b7ec6, 0xeaa127fa,
   0xd4ef3085, 0x04881d05, 0xd9d4d039, 0xe6db99e5, 0x1fa27cf8, 0xc4ac5665,
   0xf4292244, 0x432aff97, 0xab9423a7, 0xfc93a039, 0x655b59c3, 0x8f0ccc92,
   0xffeff47d, 0x85845dd1, 0x6fa87e4f, 0xfe2ce6e0, 0xa3014314, 0x4e0811a1,
   0xf7537e82, 0xbd3af235, 0x2ad7d2bb, 0xeb86d391]

/-- The rotation of a step. Each round of sixteen steps repeats four amounts. -/
def rotation (step : Nat) : UInt32 :=
  let amounts : List UInt32 := match step / 16 with
    | 0 => [7, 12, 17, 22]
    | 1 => [5, 9, 14, 20]
    | 2 => [4, 11, 16, 23]
    | _ => [6, 10, 15, 21]
  amounts.getD (step % 4) 0

/-- The mixing function of a step and the index of the word that it takes. -/
def mixing (state : State) (step : Nat) : UInt32 × Nat :=
  let ⟨_, b, c, d⟩ := state
  match step / 16 with
  | 0 => ((b &&& c) ||| (~~~b &&& d), step)
  | 1 => ((d &&& b) ||| (~~~d &&& c), (5 * step + 1) % 16)
  | 2 => (b ^^^ c ^^^ d, (3 * step + 5) % 16)
  | _ => (c ^^^ (b ||| ~~~d), (7 * step) % 16)

def step (words : List UInt32) (state : State) (number : Nat) : State :=
  let (mixed, index) := mixing state number
  let sum := state.a + mixed + sines.getD number 0 + words.getD index 0
  ⟨state.d, state.b + rotateLeft sum (rotation number), state.b, state.c⟩

def compress (state : State) (block : List UInt8) : State :=
  let after := (List.range 64).foldl (step (blockWords littleEndian block)) state
  ⟨state.a + after.a, state.b + after.b, state.c + after.c, state.d + after.d⟩

/-- The MD5 digest of a message, as 32 hexadecimal digits. -/
def hexDigest (message : List UInt8) : String :=
  let final := (blocks (padded eightBytes message)).foldl compress initial
  let bytes := [final.a, final.b, final.c, final.d].flatMap fun word => (wordBytes word).reverse
  String.ofList (bytes.flatMap hexByte)

end ComponentQueries.Digest.Md5
