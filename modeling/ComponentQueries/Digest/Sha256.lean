import ComponentQueries.Digest.Blocks

/-! The digest from which generated names take a number. -/
namespace ComponentQueries.Digest.Sha256

/-- The chaining value between two blocks. -/
structure State where
  a : UInt32
  b : UInt32
  c : UInt32
  d : UInt32
  e : UInt32
  f : UInt32
  g : UInt32
  h : UInt32

def initial : State :=
  ⟨0x6a09e667, 0xbb67ae85, 0x3c6ef372, 0xa54ff53a,
   0x510e527f, 0x9b05688c, 0x1f83d9ab, 0x5be0cd19⟩

/-- The constant added in each of the 64 steps: the fractional bits of the cube
roots of the primes. -/
def roots : List UInt32 :=
  [0x428a2f98, 0x71374491, 0xb5c0fbcf, 0xe9b5dba5, 0x3956c25b, 0x59f111f1,
   0x923f82a4, 0xab1c5ed5, 0xd807aa98, 0x12835b01, 0x243185be, 0x550c7dc3,
   0x72be5d74, 0x80deb1fe, 0x9bdc06a7, 0xc19bf174, 0xe49b69c1, 0xefbe4786,
   0x0fc19dc6, 0x240ca1cc, 0x2de92c6f, 0x4a7484aa, 0x5cb0a9dc, 0x76f988da,
   0x983e5152, 0xa831c66d, 0xb00327c8, 0xbf597fc7, 0xc6e00bf3, 0xd5a79147,
   0x06ca6351, 0x14292967, 0x27b70a85, 0x2e1b2138, 0x4d2c6dfc, 0x53380d13,
   0x650a7354, 0x766a0abb, 0x81c2c92e, 0x92722c85, 0xa2bfe8a1, 0xa81a664b,
   0xc24b8b70, 0xc76c51a3, 0xd192e819, 0xd6990624, 0xf40e3585, 0x106aa070,
   0x19a4c116, 0x1e376c08, 0x2748774c, 0x34b0bcb5, 0x391c0cb3, 0x4ed8aa4a,
   0x5b9cca4f, 0x682e6ff3, 0x748f82ee, 0x78a5636f, 0x84c87814, 0x8cc70208,
   0x90befffa, 0xa4506ceb, 0xbef9a3f7, 0xc67178f2]

/-- The next word of the schedule, from the sixteen words before it. -/
def nextWord (previous : List UInt32) : UInt32 :=
  let early := previous.getD 1 0
  let late := previous.getD 14 0
  let small := rotateRight early 7 ^^^ rotateRight early 18 ^^^ (early >>> 3)
  let large := rotateRight late 17 ^^^ rotateRight late 19 ^^^ (late >>> 10)
  previous.getD 0 0 + small + previous.getD 9 0 + large

/-- The next `count` words of the schedule, where `previous` holds the last
sixteen. -/
def schedule (previous : List UInt32) : (count : Nat) → List UInt32
  | 0 => []
  | count + 1 =>
    previous.headD 0 :: schedule (previous.tail ++ [nextWord previous]) count

def step (state : State) (addends : UInt32 × UInt32) : State :=
  let ⟨a, b, c, d, e, f, g, h⟩ := state
  let high := rotateRight e 6 ^^^ rotateRight e 11 ^^^ rotateRight e 25
  let choice := (e &&& f) ^^^ (~~~e &&& g)
  let first := h + high + choice + addends.1 + addends.2
  let low := rotateRight a 2 ^^^ rotateRight a 13 ^^^ rotateRight a 22
  let majority := (a &&& b) ^^^ (a &&& c) ^^^ (b &&& c)
  ⟨first + low + majority, a, b, c, d + first, e, f, g⟩

def compress (state : State) (block : List UInt8) : State :=
  let words := schedule (blockWords bigEndian block) 64
  let after := (words.zip roots).foldl step state
  ⟨state.a + after.a, state.b + after.b, state.c + after.c, state.d + after.d,
   state.e + after.e, state.f + after.f, state.g + after.g, state.h + after.h⟩

def leadingWord (message : List UInt8) : UInt32 :=
  let encodeLength (bits : Nat) := (eightBytes bits).reverse
  ((blocks (padded encodeLength message)).foldl compress initial).a

end ComponentQueries.Digest.Sha256
