/-! Hexadecimal digits. -/
namespace ComponentQueries.Text

def hexValue? (c : Char) : Option Nat :=
  if c.isDigit then some (c.toNat - '0'.toNat)
  else if 'a' ≤ c ∧ c ≤ 'f' then some (c.toNat - 'a'.toNat + 10)
  else if 'A' ≤ c ∧ c ≤ 'F' then some (c.toNat - 'A'.toNat + 10)
  else none

/-- The bytes that hexadecimal digits stand for, two digits a byte. -/
def hexBytes? : List Char → Option (List UInt8)
  | [] => some []
  | [_] => none
  | high :: low :: rest => do
    let high ← hexValue? high
    let low ← hexValue? low
    let bytes ← hexBytes? rest
    some (UInt8.ofNat (16 * high + low) :: bytes)

/-- The number that hexadecimal digits stand for. What is no digit does not
count. -/
def hexNumber (digits : List Char) : Nat :=
  digits.foldl (fun value c => match hexValue? c with
    | some digit => 16 * value + digit
    | none => value) 0

end ComponentQueries.Text
