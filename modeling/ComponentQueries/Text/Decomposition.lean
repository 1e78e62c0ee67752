import ComponentQueries.Text.Decomposition.Rows
import ComponentQueries.Text.Hex
import ComponentQueries.Text.Split

/-! Compatibility decomposition of characters: accents are taken off letters, ligatures
and numerals written out. -/
namespace ComponentQueries.Text

namespace Decomposition

/-- A run of characters that stand for sequences of simpler ones. The sequences
differ in their last code point, which counts up along the run. -/
structure Run where
  first : Nat
  last : Nat
  letters : List Nat
  deriving DecidableEq, Repr

def Run.parse (entry : List Char) : Run :=
  match splitAt ' ' entry with
  | characters :: letters =>
    let bounds := (splitAt '-' characters).map hexNumber
    ⟨bounds.headD 0, bounds.getLastD 0, letters.map hexNumber⟩
  | [] => ⟨0, 0, []⟩

/-- The runs of all characters that can be decomposed, Hangul syllables
apart. -/
def runs : List Run :=
  rows.flatMap fun row => (splitAt ';' row.toList).map Run.parse

def Run.lettersOf (run : Run) (n : Nat) : List Nat :=
  match run.letters.getLast? with
  | some letter => run.letters.dropLast ++ [letter + (n - run.first)]
  | none => []

/-- The letters of a Hangul syllable: a leading consonant, a vowel and perhaps
a trailing consonant. -/
def hangulLetters (n : Nat) : List Nat :=
  let index := n - 0xAC00
  let trailing := index % 28
  let letters := [0x1100 + index / 588, 0x1161 + index % 588 / 28]
  if trailing == 0 then letters else letters ++ [0x11A7 + trailing]

end Decomposition

open Decomposition

def decomposeChar (c : Char) : List Char :=
  let n := c.toNat
  if n < 0xA0 then [c]
  else if 0xAC00 ≤ n && n ≤ 0xD7A3 then (hangulLetters n).map Char.ofNat
  else match runs.find? fun run => run.first ≤ n && n ≤ run.last with
    | some run => (run.lettersOf n).map Char.ofNat
    | none => [c]

/-- The compatibility decomposition of a text. Marks stay in the order in which
they are found. -/
def decompose (text : List Char) : List Char :=
  text.flatMap decomposeChar

end ComponentQueries.Text
