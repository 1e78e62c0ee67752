/-! Texts as lists of characters, measured and cut in bytes of their UTF-8 form. -/
namespace ComponentQueries.Text

def byteLength : List Char → Nat
  | [] => 0
  | c :: rest => c.utf8Size + byteLength rest

@[simp] theorem byteLength_nil : byteLength [] = 0 := rfl

@[simp] theorem byteLength_cons (c : Char) (rest : List Char) :
    byteLength (c :: rest) = c.utf8Size + byteLength rest := rfl

@[simp] theorem byteLength_append (left right : List Char) :
    byteLength (left ++ right) = byteLength left + byteLength right := by
  induction left with
  | nil => simp
  | cons c rest ih => simp [ih, Nat.add_assoc]

/-- The character that stands for bytes which are not a whole character. -/
def replacement : Char := '\ufffd'

/-- What the character `c`, whose bytes begin at `offset`, contributes to the
bytes from `start` to `stop`: itself if all its bytes are taken, one
replacement if only its first bytes are, and one replacement for each later
byte that is taken without the first. -/
def cut (c : Char) (offset start stop : Nat) : List Char :=
  let next := offset + c.utf8Size
  if stop ≤ offset ∨ next ≤ start then []
  else if start ≤ offset then if next ≤ stop then [c] else [replacement]
  else List.replicate (min next stop - start) replacement

/-- The characters in the bytes from `start` to `stop` of a text whose first
byte has the number `offset`. -/
def sliceFrom (offset : Nat) (start stop : Nat) : List Char → List Char
  | [] => []
  | c :: rest => cut c offset start stop ++ sliceFrom (offset + c.utf8Size) start stop rest

/-- The characters in the bytes from `start` to `stop` of a text. -/
def slice (text : List Char) (start stop : Nat) : List Char :=
  sliceFrom 0 start stop text

def toBytes (text : String) : List UInt8 :=
  text.toUTF8.toList

end ComponentQueries.Text
