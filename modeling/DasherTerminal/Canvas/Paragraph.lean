import DasherTerminal.Canvas.Basic

/-!
# Paragraphs

Lines of styled text, put on a canvas cluster by cluster from the left and cut
at the right edge and the bottom of their area.
-/

namespace DasherTerminal

/-- A piece of text in one look. -/
structure Span where
  text : List Char
  style : Style
  deriving DecidableEq, Repr

namespace Span

def styled (text : String) (style : Style) : Span := ⟨text.toList, style⟩

/-- A span that looks like what is under it. -/
def raw (text : String) : Span := styled text .keep

def width (s : Span) : Nat := Text.width s.text

end Span

abbrev Line := List Span

namespace Line

def clusters (line : Line) : List (List Char × Style) :=
  line.flatMap fun s => (Text.drawnClusters s.text).map (·, s.style)

/-- The columns that clusters start in, from column `x` on, when there are
`room` columns. The line ends before the first cluster that does not fit;
clusters that could never fit, and clusters without a width, are left out. -/
def place (room x : Nat) : List (List Char × Style) → List (Nat × List Char × Style)
  | [] => []
  | (symbol, style) :: rest =>
    let w := Text.clusterWidth symbol
    if room < w then place room x rest
    else if room < x + w then []
    else if w = 0 then place room x rest
    else (x, symbol, style) :: place room (x + w) rest

def draw (line : Line) (c : Canvas) (x y room : Nat) : Canvas :=
  (place room 0 line.clusters).foldl (fun c (i, symbol, style) => c.write (x + i) y symbol style) c

end Line

namespace Canvas

def paragraph (c : Canvas) (area : Rect) (lines : List Line) : Canvas :=
  let area := area.inter c.area
  if area.isEmpty then c
  else
    (lines.take area.height).zipIdx.foldl
      (fun c (line, j) => line.draw c area.x (area.y + j) area.width) c

end Canvas

end DasherTerminal
