import ReviewDiff.Display.Strip
import ReviewDiff.Text.Blank

/-!
# Lines on a screen

Tabs become spaces up to the next tabulator. A line that is too wide goes on in the next line at the
start of a word; a word that is wider than the screen is cut. Blanks that stand over the edge are
dropped. A picture whose characters belong to different parts of a line may take more columns in
pieces than as a whole; what then stands over the edge is dropped, too.
-/

set_option autoImplicit false

namespace ReviewDiff.Wrap

def tabWidth : Nat := 8

/-- Pieces of a line, each but the last with a tab at its end, with spaces in place of the tabs;
`column` is where the first one stands. -/
def spread : (column : Nat) → List Strip → List Strip
  | _, [] => []
  | _, [last] => [last]
  | column, piece :: rest =>
    let piece := piece.put (piece.chars.dropLast ++ [' '])
    let column := column + Columns.ofChars piece.chars
    let more := (tabWidth - column % tabWidth) % tabWidth
    piece.extend more :: spread (column + more) rest

def piecesBehind (mark : Char) : List Char → List (List Char)
  | [] => [[]]
  | c :: rest =>
    match piecesBehind mark rest with
    | [] => [[c]]
    | piece :: others => if c = mark then [c] :: piece :: others else (c :: piece) :: others

def expandTabs (line : Strip) : Strip :=
  if line.chars.contains '\t' then
    Strip.join (spread 0 (line.cut (piecesBehind '\t' line.chars)))
  else line

structure Cluster where
  chars : List Char
  columns : Nat

def attach (cs : List Char) (more : Nat) : List Cluster → List Cluster
  | [] => [⟨cs, more⟩]
  | latest :: rest => ⟨latest.chars ++ cs, latest.columns + more⟩ :: rest

def clustersFrom : (last : Option Char) → (clusters : List Cluster) → List Char → List Cluster
  | _, clusters, [] => clusters
  | last, clusters, [c] => (single last clusters c).2
  | last, clusters, c :: d :: rest =>
    if c = Columns.joiner && !clusters.isEmpty then
      clustersFrom last (attach [c, d] 0 clusters) rest
    else
      let (last, clusters) := single last clusters c
      clustersFrom last clusters (d :: rest)
where
  /-- The clusters with one more character, and the character that a selector widens then. -/
  single (last : Option Char) (clusters : List Cluster) (c : Char) : Option Char × List Cluster :=
    if c = Columns.selector then
      if last.any (Text.inRanges Columns.pictureRanges) then (none, attach [c] 1 clusters)
      else (last, attach [c] 0 clusters)
    else if c = Columns.joiner || Columns.ofChar c = 0 then (last, attach [c] 0 clusters)
    else (some c, ⟨[c], Columns.ofChar c⟩ :: clusters)

def clusters (cs : List Char) : List Cluster := (clustersFrom none [] cs).reverse

def chopFrom (width : Nat) : (line : List Char) → (columns : Nat) → List Cluster → List (List Char)
  | line, _, [] => [line]
  | line, columns, c :: rest =>
    if width < columns + c.columns then line :: chopFrom width c.chars c.columns rest
    else chopFrom width (line ++ c.chars) (columns + c.columns) rest

def chop (width : Nat) (word : List Char) : List (List Char) := chopFrom width [] 0 (clusters word)

def words (line : List Char) : List (List Char) :=
  let margin := line.takeWhile Text.isBlank
  match groups (line.drop margin.length) with
  | [] => if margin.isEmpty then [] else [margin]
  | word :: rest => (margin ++ word) :: rest
where
  groups : List Char → List (List Char)
    | [] => []
    | [c] => [[c]]
    | c :: d :: rest =>
      match groups (d :: rest) with
      | [] => [[c]]
      | word :: others =>
        if Text.isBlank c && !Text.isBlank d then [c] :: word :: others
        else (c :: word) :: others

def trimEnd (cs : List Char) : List Char := (cs.reverse.dropWhile Text.isBlank).reverse

/-- What has been set: whole lines, the latest first, the line in hand and the columns it counts. -/
structure Setting where
  lines : List (List Char)
  line : List Char
  columns : Nat

def place (width : Nat) (s : Setting) (word : List Char) : Setting :=
  let size := Columns.ofChars (trimEnd word)
  if s.columns + size ≤ width then
    { s with line := s.line ++ word, columns := s.columns + Columns.ofChars word }
  else
    let lines := if s.line.isEmpty then s.lines else s.line :: s.lines
    let parts := if width < size then chop width word else [word]
    match parts.reverse with
    | [] => s
    | last :: others => ⟨others ++ lines, last, Columns.ofChars last⟩

def dropOverhang (width : Nat) (line : List Char) : List Char :=
  let blanks := line.length - (trimEnd line).length
  line.take (line.length - min blanks (line.length - width))

def fill : (room : Nat) → List Cluster → List Char
  | _, [] => []
  | room, c :: rest =>
    if c.columns ≤ room then c.chars ++ fill (room - c.columns) rest
    else if room = 0 then [] else [' ']

def crop (width : Nat) (line : List Char) : List Char :=
  if Columns.ofChars line ≤ width then line else fill width (clusters line)

def wrap (width : Nat) (line : Strip) : List Strip :=
  let s := (words line.chars).foldl (place width) ⟨[], [], 0⟩
  (line.cut (s.line :: s.lines).reverse).map fun piece =>
    let trimmed := piece.put (dropOverhang width piece.chars)
    trimmed.put (crop width trimmed.chars)

def rows (text : Strip) : List Strip :=
  (text.cut (piecesBehind '\n' text.chars)).map fun row =>
    if row.chars.getLast? = some '\n' then row.put row.chars.dropLast else row

/-- A text of several lines as lines of a width. -/
def lines (width : Nat) (text : Strip) : List Strip :=
  (rows text).flatMap fun row => wrap width (expandTabs row)

def fillSegments : (room : Nat) → List (List Char) → List Char
  | _, [] => []
  | room, segment :: rest =>
    let columns := Columns.ofChars segment
    if columns < room then segment ++ fillSegments (room - columns) rest else crop room segment

/-- What shows of a line. -/
def shown (width : Nat) (line : Strip) : List Char :=
  let segments := line.segments
  if (segments.map Columns.ofChars).foldl (· + ·) 0 ≤ width then line.chars
  else fillSegments width segments

end ReviewDiff.Wrap
