import DasherTerminal.Model
import DasherTerminal.Screen.Size
import DasherTerminal.Screen.Cell
import DasherTerminal.Screen.Grid
import DasherTerminal.Screen.History

/-!
# The virtual screen

A grid of cells with a cursor, the attributes of the next written cell, the
roll and blink modes and the scrollback. Beside every cell stands a dirty flag:
it is raised by whatever changes how the cell looks, and lowered by a renderer
that has drawn it.
-/

namespace DasherTerminal

structure Screen where
  size : ScreenSize
  model : Model
  cells : Grid Cell
  dirty : Grid Bool
  cursor : Cursor
  /-- What the next written cell takes on. -/
  attributes : Attributes
  blinkEnabled : Bool
  /-- The phase of the blink timer; blinking cells are hidden while it is on. -/
  blinkPhase : Bool
  /-- Whether the last line scrolls; otherwise it is followed by the first. -/
  roll : Bool
  history : History
  deriving DecidableEq, Repr

namespace Screen

def empty (size : ScreenSize) (model : Model) (history : History) : Screen :=
  { size, model, history
    cells := .replicate size.cols size.lines .blank
    dirty := .replicate size.cols size.lines true
    cursor := .home
    attributes := .plain
    blinkEnabled := true
    blinkPhase := false
    roll := true }

def cell? (s : Screen) (x y : Nat) : Option Cell := s.cells.get? x y

def textOfCells (row : Array Cell) : String :=
  String.ofList (row.toList.map fun c => charOfCode c.code)

def rowText? (s : Screen) (y : Nat) : Option String := s.cells.rows[y]?.map textOfCells

def rowTexts (s : Screen) : List String := s.cells.rows.toList.map textOfCells

/-! ### Cells -/

def markAllDirty (s : Screen) : Screen := { s with dirty := s.dirty.map fun _ => true }

def markBlinkingDirty (s : Screen) : Screen :=
  { s with dirty := s.cells.zipWith (fun c d => d || c.attributes.blink) s.dirty }

def write (s : Screen) (x y : Nat) (cell : Cell) : Screen :=
  { s with cells := s.cells.set x y cell, dirty := s.dirty.set x y true }

def eraseToRight (s : Screen) : Screen :=
  { s with
    cells := s.cells.fillRight s.cursor.col s.cursor.row .blank
    dirty := s.dirty.fillRight s.cursor.col s.cursor.row true }

/-- Blank the screen, send the cursor home and drop the attributes. -/
def erasePage (s : Screen) : Screen :=
  { s with
    cells := .replicate s.size.cols s.size.lines .blank
    dirty := .replicate s.size.cols s.size.lines true
    cursor := .home
    attributes := .plain }

/-- Move every row up by one; the top row goes to the history. -/
def scroll (s : Screen) : Screen :=
  { s with
    cells := s.cells.shiftUp s.size.cols .blank
    dirty := s.dirty.map fun _ => true
    history := match s.rowText? 0 with
      | some line => s.history.push line
      | none => s.history }

/-! ### Cursor -/

/-- Go to column `x` of row `y`, or as near to it as the screen reaches. -/
def moveTo (s : Screen) (x y : Nat) : Screen :=
  { s with cursor := ⟨min y (s.size.lines - 1), min x (s.size.cols - 1)⟩ }

/-- Column 0 of the next line. On the last line the screen scrolls, or the
cursor goes to the first line if roll is off. -/
def newLine (s : Screen) : Screen :=
  if s.cursor.row + 1 < s.size.lines then { s with cursor := ⟨s.cursor.row + 1, 0⟩ }
  else if s.roll then { s with cursor := ⟨s.cursor.row, 0⟩ }.scroll
  else { s with cursor := .home }

/-- The next column, or a new line at the right edge. -/
def advance (s : Screen) : Screen :=
  if s.cursor.col + 1 < s.size.cols then
    { s with cursor := ⟨s.cursor.row, s.cursor.col + 1⟩ }
  else s.newLine

def put (s : Screen) (code : UInt8) : Screen :=
  (s.write s.cursor.col s.cursor.row ⟨code, s.attributes⟩).advance

def carriageReturn (s : Screen) : Screen := { s with cursor := ⟨s.cursor.row, 0⟩ }

def home (s : Screen) : Screen := { s with cursor := .home }

/-- One column left, but not past column 0. -/
def left (s : Screen) : Screen := { s with cursor := ⟨s.cursor.row, s.cursor.col - 1⟩ }

/-- One column right; the last column is followed by the next line, and the
last line by the first. Never scrolls. -/
def right (s : Screen) : Screen :=
  if s.cursor.col + 1 < s.size.cols then
    { s with cursor := ⟨s.cursor.row, s.cursor.col + 1⟩ }
  else { s with cursor := ⟨(s.cursor.row + 1) % s.size.lines, 0⟩ }

/-- One line up; the first line is preceded by the last. -/
def up (s : Screen) : Screen :=
  { s with cursor :=
      ⟨if s.cursor.row = 0 then s.size.lines - 1 else s.cursor.row - 1, s.cursor.col⟩ }

/-- One line down; the last line is followed by the first. Never scrolls. -/
def down (s : Screen) : Screen :=
  { s with cursor := ⟨(s.cursor.row + 1) % s.size.lines, s.cursor.col⟩ }

/-! ### Modes and geometry -/

def setBlinkEnabled (s : Screen) (on : Bool) : Screen :=
  if s.blinkEnabled = on then s else { s with blinkEnabled := on }.markBlinkingDirty

def toggleBlinkPhase (s : Screen) : Screen :=
  { s with blinkPhase := !s.blinkPhase }.markBlinkingDirty

def hidesBlinking (s : Screen) : Bool := s.blinkEnabled && s.blinkPhase

def setRoll (s : Screen) (on : Bool) : Screen := { s with roll := on }

def setModel (s : Screen) (model : Model) : Screen := { s with model }

def mapAttributes (s : Screen) (f : Attributes → Attributes) : Screen :=
  { s with attributes := f s.attributes }

/-- Start over with an empty grid of another size. The modes, the model and
the history stay. -/
def resize (s : Screen) (size : ScreenSize) : Screen :=
  { s with
    size
    cells := .replicate size.cols size.lines .blank
    dirty := .replicate size.cols size.lines true
    cursor := .home
    attributes := .plain }

/-! ### Well-formedness -/

structure WellFormed (s : Screen) : Prop where
  cells_shape : s.cells.HasShape s.size.cols s.size.lines
  dirty_shape : s.dirty.HasShape s.size.cols s.size.lines
  row_lt : s.cursor.row < s.size.lines
  col_lt : s.cursor.col < s.size.cols

theorem wellFormed_empty (size : ScreenSize) (model : Model) (history : History) :
    (empty size model history).WellFormed :=
  ⟨Grid.hasShape_replicate .., Grid.hasShape_replicate .., size.lines_pos, size.cols_pos⟩

end Screen

end DasherTerminal
