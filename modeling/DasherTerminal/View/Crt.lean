import DasherTerminal.Canvas.Paragraph
import DasherTerminal.Screen.Snapshot

/-!
# The picture of the tube

A renderer's copy of the screen is drawn row by row. Neighbouring cells of one
look are drawn as one span; the cursor's cell is drawn again in reverse.
-/

namespace DasherTerminal.View

/-- The character a cell shows. A blinking cell is blank while such cells are
hidden. -/
def visibleChar (hidesBlinking : Bool) (cell : Cell) : Char :=
  if cell.attributes.blink && hidesBlinking then ' ' else charOfCode cell.code

/-- Dark characters on a glowing ground, for reverse cells and the cursor. -/
def reverseStyle : Style := .colors .black phosphor

def cellStyle (cell : Cell) : Style :=
  let base := if cell.attributes.reverse then reverseStyle else .colors phosphor .reset
  let base := if cell.attributes.dim then base.dim else base
  if cell.attributes.underscore then base.underlined else base

/-- A row on its way to spans: the spans that are finished, and the text and the
look of the one that is being made. -/
structure Grouping where
  finished : Line
  text : List Char
  style : Option Style
  deriving DecidableEq, Repr

namespace Grouping

def empty : Grouping := ⟨[], [], none⟩

/-- Finish the span that is being made, if what comes next has another look. -/
def turnTo (g : Grouping) (style : Style) : Grouping :=
  match g.style with
  | some current =>
    if current = style then g
    else { g with finished := g.finished ++ [⟨g.text, current⟩], text := [] }
  | none => g

def push (g : Grouping) (c : Char) (style : Style) : Grouping :=
  let g := g.turnTo style
  { g with text := g.text ++ [c], style := some style }

def spans (g : Grouping) : Line :=
  match g.style with
  | some style => g.finished ++ [⟨g.text, style⟩]
  | none => g.finished

end Grouping

def rowSpans (hidesBlinking : Bool) (cells : List Cell) : Line :=
  (cells.foldl
    (fun g cell => g.push (visibleChar hidesBlinking cell) (cellStyle cell)) Grouping.empty).spans

def expand (line : Line) : List (Char × Style) :=
  line.flatMap fun s => s.text.map (·, s.style)

/-- The rows of the copy that are drawn into `area`, cut to its size. -/
def crtLines (m : Replica) (area : Rect) : List Line :=
  (m.cells.rows.toList.take area.height).map fun row =>
    rowSpans m.hidesBlinking (row.toList.take area.width)

/-- Draw the cursor's cell again, if it is in the area. -/
def drawCursor (m : Replica) (area : Rect) (c : Canvas) : Canvas :=
  if m.cursor.col < area.width ∧ m.cursor.row < area.height then
    let x := area.x + m.cursor.col
    let y := area.y + m.cursor.row
    let shown := (m.cell? m.cursor.col m.cursor.row).elim ' ' (visibleChar m.hidesBlinking)
    (c.paragraph ⟨x, y, 1, 1⟩ [[⟨[shown], reverseStyle⟩]]).showCursor x y
  else c

/-- Draw the copy. A renderer that has seen no screen draws nothing. -/
def crt (m : Replica) (area : Rect) (c : Canvas) : Canvas :=
  match m.size with
  | none => c
  | some _ => drawCursor m area (c.paragraph area (crtLines m area))

end DasherTerminal.View
