/-! Messages as blocks of sixteen words, which the digests work on. -/
namespace ComponentQueries.Digest

def groups {α : Type} (size : Nat) : (count : Nat) → List α → List (List α)
  | 0, _ => []
  | count + 1, elements =>
    elements.take size :: groups size count (elements.drop size)

/-- The eight bytes of a number, least significant first. -/
def eightBytes (n : Nat) : List UInt8 :=
  (List.range 8).map fun i => UInt8.ofNat (n >>> (8 * i))

/-- A message padded to whole blocks of 64 bytes: a byte 0x80, zeros, and eight
bytes for the number of bits, written by `encodeLength`. -/
def padded (encodeLength : Nat → List UInt8) (message : List UInt8) : List UInt8 :=
  let zeros := (119 - message.length % 64) % 64
  message ++ 0x80 :: List.replicate zeros 0 ++ encodeLength (8 * message.length)

def blocks (message : List UInt8) : List (List UInt8) :=
  groups 64 (message.length / 64) message

/-- The sixteen words of a block, each of four bytes read by `decodeWord`. -/
def blockWords (decodeWord : List UInt8 → UInt32) (block : List UInt8) : List UInt32 :=
  (groups 4 16 block).map decodeWord

def bigEndian (bytes : List UInt8) : UInt32 :=
  bytes.foldl (fun word byte => (word <<< 8) ||| byte.toUInt32) 0

def littleEndian (bytes : List UInt8) : UInt32 :=
  bigEndian bytes.reverse

def rotateLeft (word count : UInt32) : UInt32 :=
  (word <<< count) ||| (word >>> (32 - count))

def rotateRight (word count : UInt32) : UInt32 :=
  (word >>> count) ||| (word <<< (32 - count))

def hexByte (byte : UInt8) : List Char :=
  [Nat.digitChar (byte.toNat / 16), Nat.digitChar (byte.toNat % 16)]

def wordBytes (word : UInt32) : List UInt8 :=
  [(word >>> 24).toUInt8, (word >>> 16).toUInt8, (word >>> 8).toUInt8, word.toUInt8]

end ComponentQueries.Digest
