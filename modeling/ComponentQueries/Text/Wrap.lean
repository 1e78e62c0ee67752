import ComponentQueries.Text.Blank
import ComponentQueries.Text.CellWidth
import ComponentQueries.Text.Position

/-! Lines that fit into a number of terminal cells. A line is broken between words, and a
word only if it is too long for a line of its own. -/
namespace ComponentQueries.Text

/-- A character with the characters that are drawn together with it. -/
structure Cluster where
  content : List Char
  cells : Nat
  deriving DecidableEq, Repr

/-- The cluster with more characters, which take `more` further cells. -/
def Cluster.extend (cluster : Cluster) (content : List Char) (more : Nat) : Cluster :=
  ⟨cluster.content ++ content, cluster.cells + more⟩

/-- The clusters of a text behind a cluster that is not yet complete, where
`last` is the last character that took any cells. -/
def clustersFrom (cluster : Cluster) (last : Option Char) : List Char → List Cluster
  | [] => [cluster]
  | c :: rest =>
    if c = joiner then
      match rest with
      | [] => [cluster.extend [c] 0]
      | next :: others => clustersFrom (cluster.extend [c, next] 0) last others
    else if c = pictureSelector then
      if last.any (inRanges pictureRanges) then clustersFrom (cluster.extend [c] 1) none rest
      else clustersFrom (cluster.extend [c] 0) last rest
    else if cellWidth c = 0 then clustersFrom (cluster.extend [c] 0) last rest
    else cluster :: clustersFrom ⟨[c], cellWidth c⟩ (some c) rest

def clusters : List Char → List Cluster
  | [] => []
  | c :: rest => clustersFrom ⟨[c], cellWidth c⟩ (if cellWidth c = 0 then none else some c) rest

def cellsOfClusters : List Cluster → Nat
  | [] => 0
  | cluster :: others => cluster.cells + cellsOfClusters others

/-- Why a text cannot be cut to a number of cells. Characters that are joined to
nothing count in the length of a text and not in its clusters, so there can be
fewer cells than were expected. -/
inductive Misfit where
  /-- The clusters end before the cut. -/
  | tooFewCells
  /-- The clusters have no cells at all. -/
  | noCells
  deriving DecidableEq, Repr

def Misfit.message : Misfit → String
  | tooFewCells => "list index out of range"
  | noCells => "division by zero"

/-- The beginning of a text that takes `width` cells, with a space for half a
character at its end. -/
def cropClusters (width : Nat) : List Cluster → List Char
  | [] => []
  | cluster :: others =>
    if cluster.cells ≤ width then cluster.content ++ cropClusters (width - cluster.cells) others
    else if width = 0 then [] else [' ']

def crop (width : Nat) (text : List Char) : Except Misfit (List Char) :=
  let parts := clusters text
  let cells := cellsOfClusters parts
  if width = 0 then .ok []
  else if cells = 0 then .error .noCells
  else if cells < width then .error .tooFewCells
  else .ok (cropClusters width parts)

/-- Pieces of at most `width` cells from clusters, behind the piece `piece` of
`used` cells. -/
def chopClusters (width : Nat) (piece : List Char) (used : Nat) : List Cluster → List (List Char)
  | [] => if used = 0 then [] else [piece]
  | cluster :: others =>
    if used + cluster.cells ≤ width then
      chopClusters width (piece ++ cluster.content) (used + cluster.cells) others
    else piece :: chopClusters width cluster.content cluster.cells others

def chop (width : Nat) (text : List Char) : List (List Char) :=
  chopClusters width [] 0 (clusters text)

/-- The words of a text that begins with none of its white space, each with the
white space behind it. -/
def wordsOf (text : List Char) : List (List Char) :=
  match text with
  | [] => []
  | c :: rest =>
    let word := rest.takeWhile fun d => !isBlank d
    let behind := rest.dropWhile fun d => !isBlank d
    (c :: word ++ behind.takeWhile isBlank) :: wordsOf (behind.dropWhile isBlank)
termination_by text.length
decreasing_by
  have first := (List.dropWhile_suffix (l := rest) fun d => !isBlank d).length_le
  have second := (List.dropWhile_suffix (l := rest.dropWhile fun d => !isBlank d) isBlank).length_le
  simp only [List.length_cons]
  omega

/-- The words of a text with all of its white space. There is none in a text of
white space only. -/
def spacedWords (text : List Char) : List (List Char) :=
  match wordsOf (text.dropWhile isBlank) with
  | [] => []
  | word :: others => (text.takeWhile isBlank ++ word) :: others

/-- What becomes of a text that is too long for its line. -/
inductive Overflow where
  /-- The rest goes on the next line. -/
  | fold
  /-- The rest is cut off, and an ellipsis stands for it. -/
  | ellipsis
  deriving DecidableEq, Repr

/-- The positions of pieces that follow one another, except the position zero. -/
def startsOf (position : Nat) : List (List Char) → List Nat
  | [] => []
  | piece :: others =>
    (if position = 0 then [] else [position]) ++ startsOf (position + piece.length) others

/-- The positions at which words are put on new lines of `width` cells. The first
word stands at `position`, behind a line of `used` cells. The white space behind a
word may exceed the width. A word that fits on no line is broken itself, or
begins a line that is cut off later. -/
def breaksFrom (width : Nat) (overflow : Overflow) (position used : Nat) :
    List (List Char) → List Nat
  | [] => []
  | word :: others =>
    let cells := cellLength (trimEnd isBlank word)
    let behind := position + word.length
    if used + cells ≤ width then
      breaksFrom width overflow behind (used + cellLength word) others
    else if width < cells ∧ overflow = .fold then
      let pieces := chop width word
      let used := (pieces.getLast?.map cellLength).getD used
      startsOf position pieces ++ breaksFrom width overflow behind used others
    else
      startsOf position [word] ++ breaksFrom width overflow behind (cellLength word) others

/-- The positions at which a text without line feeds is broken. -/
def breaks (width : Nat) (overflow : Overflow) (text : List Char) : List Nat :=
  breaksFrom width overflow 0 0 (spacedWords text)

end ComponentQueries.Text
