/-! Texts from bytes. Bytes that are no text are placed and explained. -/
namespace ComponentQueries.Text

/-- Why bytes are not the UTF-8 form of a text. -/
inductive DecodingReason where
  | invalidStart | invalidContinuation | unexpectedEnd
  deriving DecidableEq, Repr

def DecodingReason.message : DecodingReason → String
  | invalidStart => "invalid start byte"
  | invalidContinuation => "invalid continuation byte"
  | unexpectedEnd => "unexpected end of data"

/-- Bytes that are no character: the first of them with its place, and their
number. -/
structure DecodingFault where
  first : UInt8
  position : Nat
  count : Nat
  reason : DecodingReason
  deriving DecidableEq, Repr

def DecodingFault.message (fault : DecodingFault) : String :=
  let place := if fault.count = 1 then
      "byte 0x" ++ String.ofList [Nat.digitChar (fault.first.toNat / 16),
        Nat.digitChar (fault.first.toNat % 16)] ++ " in position " ++ toString fault.position
    else
      "bytes in position " ++ toString fault.position ++ "-" ++
        toString (fault.position + fault.count - 1)
  "'utf-8' codec can't decode " ++ place ++ ": " ++ fault.reason.message

/-- The beginning of a character by its first byte: the bits that the byte
gives, how many bytes follow, and the bounds of the second byte. -/
structure Lead where
  bits : Nat
  following : Nat
  low : UInt8
  high : UInt8

/-- The lead of a byte. The bounds of the second byte leave out what has a
shorter form, surrogates, and what lies beyond the last code point. -/
def lead? (byte : UInt8) : Option Lead :=
  let n := byte.toNat
  if n < 0x80 then some ⟨n, 0, 0x80, 0xBF⟩
  else if n < 0xC2 then none
  else if n < 0xE0 then some ⟨n - 0xC0, 1, 0x80, 0xBF⟩
  else if n < 0xF0 then
    some ⟨n - 0xE0, 2, if n = 0xE0 then 0xA0 else 0x80, if n = 0xED then 0x9F else 0xBF⟩
  else if n < 0xF5 then
    some ⟨n - 0xF0, 3, if n = 0xF0 then 0x90 else 0x80, if n = 0xF4 then 0x8F else 0xBF⟩
  else none

/-- Reads the bytes that follow the first of a character. The result is the code
point, or the reason with the number of bytes that were right. -/
def following (low high : UInt8) (value taken : Nat) :
    (count : Nat) → List UInt8 → Except (DecodingReason × Nat) Nat
  | 0, _ => .ok value
  | _ + 1, [] => .error (.unexpectedEnd, taken)
  | count + 1, byte :: rest =>
    if low ≤ byte ∧ byte ≤ high then
      following 0x80 0xBF (value * 64 + (byte.toNat - 0x80)) (taken + 1) count rest
    else .error (.invalidContinuation, taken)

def decodeFrom (position : Nat) (bytes : List UInt8) : Except DecodingFault (List Char) :=
  match bytes with
  | [] => .ok []
  | first :: rest =>
    match lead? first with
    | none => .error ⟨first, position, 1, .invalidStart⟩
    | some lead =>
      match following lead.low lead.high lead.bits 1 lead.following rest with
      | .error (reason, count) => .error ⟨first, position, count, reason⟩
      | .ok point =>
        (decodeFrom (position + (1 + lead.following)) (rest.drop lead.following)).map
          (Char.ofNat point :: ·)
termination_by bytes.length

def decode (bytes : List UInt8) : Except DecodingFault (List Char) :=
  decodeFrom 0 bytes

def unifyLineEnds : List Char → List Char
  | '\r' :: '\n' :: rest => '\n' :: unifyLineEnds rest
  | c :: rest => (if c = '\r' then '\n' else c) :: unifyLineEnds rest
  | [] => []

end ComponentQueries.Text
