/-! White space, lines in the wide sense, and trimming. -/
namespace ComponentQueries.Text

/-- White space: the separators of Unicode and the control characters that
move the print position or separate records. -/
def isBlank (c : Char) : Bool :=
  let n := c.toNat
  (0x09 ≤ n && n ≤ 0x0D) || (0x1C ≤ n && n ≤ 0x20) || n == 0x85 || n == 0xA0 || n == 0x1680 ||
    (0x2000 ≤ n && n ≤ 0x200A) || n == 0x2028 || n == 0x2029 || n == 0x202F || n == 0x205F ||
    n == 0x3000

/-- Controls that a terminal would act on, apart from line feed and tab. They are
not printed. -/
def isStripped (c : Char) : Bool :=
  c.toNat == 0x07 || c.toNat == 0x08 || (0x0B ≤ c.toNat && c.toNat ≤ 0x0D)

/-- A text without the controls that a terminal would act on. -/
def sanitized (text : List Char) : List Char :=
  text.filter fun c => !isStripped c

/-- A text without the characters of a class at its beginning. -/
def trimStart (drop : Char → Bool) (text : List Char) : List Char :=
  text.dropWhile drop

/-- A text without the characters of a class at its end. -/
def trimEnd (drop : Char → Bool) (text : List Char) : List Char :=
  (text.reverse.dropWhile drop).reverse

/-- A text without the characters of a class at either end. -/
def trim (drop : Char → Bool) (text : List Char) : List Char :=
  trimEnd drop (trimStart drop text)

def trimBlank (text : String) : String :=
  String.ofList (trim isBlank text.toList)

/-- Line boundaries in the wide sense: every control character or separator
that starts a new line on a printed page. -/
def isLineBreak (c : Char) : Bool :=
  let n := c.toNat
  (0x0A ≤ n && n ≤ 0x0D) || (0x1C ≤ n && n ≤ 0x1E) || n == 0x85 || n == 0x2028 || n == 0x2029

/-- The lines of a text in the wide sense. A carriage return with a line feed
is one boundary, and a boundary at the end is followed by no line. -/
def printedLines (text : List Char) : List (List Char) :=
  go [] text
where
  /-- The lines of `current.reverse ++ text`, where `current` holds no boundary. -/
  go (current : List Char) : List Char → List (List Char)
    | [] => if current.isEmpty then [] else [current.reverse]
    | '\r' :: '\n' :: rest => current.reverse :: go [] rest
    | c :: rest => if isLineBreak c then current.reverse :: go [] rest else go (c :: current) rest

end ComponentQueries.Text
