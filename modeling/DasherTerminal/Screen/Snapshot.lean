import DasherTerminal.Screen.Basic

/-!
# What a renderer has to draw

A snapshot lists the cells that have to be drawn again. A renderer keeps a copy
of the screen, brings it up to date from snapshots and lowers the dirty flags
it has seen.
-/

namespace DasherTerminal

structure CellView where
  x : Nat
  y : Nat
  cell : Cell
  dirty : Bool
  deriving DecidableEq, Repr

namespace Screen

/-- The view of one cell: only a dirty cell or a hidden blinking one has one. -/
def view? (s : Screen) (x y : Nat) : Option CellView := do
  let cell ← s.cells.get? x y
  let dirty ← s.dirty.get? x y
  if dirty || (s.hidesBlinking && cell.attributes.blink) then some ⟨x, y, cell, dirty⟩ else none

def snapshot (s : Screen) : List CellView :=
  (List.range s.size.lines).flatMap fun y =>
    (List.range s.size.cols).filterMap fun x => s.view? x y

/-- Lower the dirty flags of the cells that were seen dirty. -/
def clearDirty (s : Screen) (views : List CellView) : Screen :=
  { s with dirty := views.foldl (fun d v => if v.dirty then d.set v.x v.y false else d) s.dirty }

end Screen

/-- A renderer's copy of the screen. -/
structure Replica where
  size : Option ScreenSize
  cells : Grid Cell
  cursor : Cursor
  /-- Whether blinking cells are to be left blank. -/
  hidesBlinking : Bool
  deriving DecidableEq, Repr

namespace Replica

def unsynced : Replica := ⟨none, ⟨#[]⟩, .home, false⟩

instance : Inhabited Replica := ⟨unsynced⟩

def cell? (m : Replica) (x y : Nat) : Option Cell := m.cells.get? x y

/-- Take over one cell of a snapshot, and count it if it differs. -/
def take (copied : Grid Cell × Nat) (view : CellView) : Grid Cell × Nat :=
  match copied.1.get? view.x view.y with
  | some old =>
    if old = view.cell then copied
    else (copied.1.set view.x view.y view.cell, copied.2 + 1)
  | none => copied

/-- A copy of another size starts blank, and then everything has to be drawn. -/
def fit (m : Replica) (s : Screen) : Replica × Screen :=
  if m.size = some s.size then (m, s)
  else
    ({ m with size := some s.size, cells := .replicate s.size.cols s.size.lines .blank },
      s.markAllDirty)

/-- Bring the copy up to date. Gives the copy, the screen with the seen flags
lowered, and the number of cells that changed in the copy. -/
def sync (m : Replica) (s : Screen) : Replica × Screen × Nat :=
  let (m, s) := m.fit s
  let views := s.snapshot
  let (cells, changed) := views.foldl take (m.cells, 0)
  ({ m with cells, cursor := s.cursor, hidesBlinking := s.hidesBlinking },
    s.clearDirty views, changed)

end Replica

end DasherTerminal
