import ComponentQueries.Command.Literal.Number
import ComponentQueries.Command.Literal.Token
import ComponentQueries.Text.CharacterName
import ComponentQueries.Text.Hex

/-! Escapes in quotations. Errors name the positions of an escape in a form of the text in
which every character beyond ASCII is an escape of ten characters. -/
namespace ComponentQueries.Literal

def escapedWidth (c : Char) : Nat :=
  if c.toNat < 0x80 then 1 else 10

def escapedWidths : List Char → Nat
  | [] => 0
  | c :: rest => escapedWidth c + escapedWidths rest

/-- Tests an escape at `position` that needs `count` hexadecimal digits, which are at
the beginning of `rest`. -/
def checkCode (position count : Nat) (fault : EscapeFault) (rest : List Char) :
    Except Error Unit :=
  let digits := (rest.take count).takeWhile isHexDigit
  if digits.length < count then
    .error (.textEscape position (position + 1 + digits.length) fault)
  else if 0x10FFFF < Text.hexNumber digits then
    .error (.textEscape position (position + 1 + count) .illegal)
  else .ok ()

/-- Tests an escape at `position` that names a character, where `rest` follows its
letter. -/
def checkName (position : Nat) (rest : List Char) : Except Error Unit :=
  match rest with
  | '\x7b' :: others =>
    let name := others.takeWhile (· != '\x7d')
    let last := position + 2 + escapedWidths name
    if name.length = others.length then .error (.textEscape position last .malformedName)
    else if name = [] then .error (.textEscape position last .malformedName)
    else if Text.isCharacterName name then .ok ()
    else .error (.textEscape position (last + 1) .unknownName)
  | _ => .error (.textEscape position (position + 1) .malformedName)

def checkEscapes (position : Nat) : List Char → Except Error Unit
  | [] => .ok ()
  | c :: rest =>
    if c ≠ '\\' then checkEscapes (position + escapedWidth c) rest
    else match rest with
      | [] => .ok ()
      | letter :: others => do
        if 0x80 ≤ letter.toNat then
          checkEscapes (position + 6 + escapedWidth letter) others
        else
          if letter = 'x' then checkCode position 2 .shortByte others
          else if letter = 'u' then checkCode position 4 .shortUnit others
          else if letter = 'U' then checkCode position 8 .shortCode others
          else if letter = 'N' then checkName position others
          checkEscapes (position + 2) others

def checkByteEscapes (position : Nat) : List Char → Except Error Unit
  | [] => .ok ()
  | c :: rest =>
    if c ≠ '\\' then checkByteEscapes (position + 1) rest
    else match rest with
      | [] => .ok ()
      | letter :: others =>
        if letter = 'x' ∧ ((others.take 2).takeWhile isHexDigit).length < 2 then
          .error (.bytesEscape position)
        else checkByteEscapes (position + 2) others

end ComponentQueries.Literal
