import DasherTerminal.Proofs.Screen.Change
import DasherTerminal.Screen.Snapshot

/-!
# Strict access to a screen

The operations of a screen carried out place by place. A strict operation
demands that every cell and every dirty flag it uses is there, that every count
it lowers is positive and that it divides by no zero; otherwise it has no
result. On a well-formed screen strict operations always have a result, and it
is the one of the operation itself. The dirty flags stand in one table, row
after row.
-/

namespace DasherTerminal.Screen

/-- Demand the cell in column `x` of row `y` and its dirty flag. -/
def touch? (s : Screen) (x y : Nat) : Option Unit := do
  let row ← s.cells.rows[y]?
  let _ ← row[x]?
  let _ ← s.dirty.flat[y * s.size.cols + x]?
  some ()

def touchAll? (s : Screen) (places : List (Nat × Nat)) : Option Unit :=
  forM places fun p => s.touch? p.1 p.2

/-- The last of `n` places. -/
def last? (n : Nat) : Option Nat := if n = 0 then none else some (n - 1)

/-- The place `i` of `n`, counted round and round. -/
def wrap? (i n : Nat) : Option Nat := if n = 0 then none else some (i % n)

def write? (s : Screen) (x y : Nat) (cell : Cell) : Option Screen :=
  if x < s.size.cols ∧ y < s.size.lines then do
    s.touch? x y
    some (s.write x y cell)
  else some s

def blankAll? (s : Screen) (places : List (Nat × Nat)) : Option Screen :=
  places.foldlM (fun s p => s.write? p.1 p.2 .blank) s

def eraseToRight? (s : Screen) : Option Screen :=
  s.blankAll? ((List.range' s.cursor.col (s.size.cols - s.cursor.col)).map
    fun x => (x, s.cursor.row))

def erasePage? (s : Screen) : Option Screen := do
  let blank ← s.blankAll? (Grid.positions s.size.cols s.size.lines)
  some { blank with cursor := .home, attributes := .plain }

def scroll? (s : Screen) : Option Screen := do
  let _ ← s.cells.rows[0]?
  some s.scroll

def moveTo? (s : Screen) (x y : Nat) : Option Screen := do
  let right ← last? s.size.cols
  let bottom ← last? s.size.lines
  some { s with cursor := ⟨min y bottom, min x right⟩ }

def newLine? (s : Screen) : Option Screen :=
  if s.cursor.row + 1 < s.size.lines then some { s with cursor := ⟨s.cursor.row + 1, 0⟩ }
  else if s.roll then { s with cursor := ⟨s.cursor.row, 0⟩ }.scroll?
  else some { s with cursor := .home }

def advance? (s : Screen) : Option Screen :=
  if s.cursor.col + 1 < s.size.cols then
    some { s with cursor := ⟨s.cursor.row, s.cursor.col + 1⟩ }
  else s.newLine?

def put? (s : Screen) (code : UInt8) : Option Screen := do
  let written ← s.write? s.cursor.col s.cursor.row ⟨code, s.attributes⟩
  written.advance?

def right? (s : Screen) : Option Screen :=
  if s.cursor.col + 1 < s.size.cols then
    some { s with cursor := ⟨s.cursor.row, s.cursor.col + 1⟩ }
  else do
    let row ← wrap? (s.cursor.row + 1) s.size.lines
    some { s with cursor := ⟨row, 0⟩ }

def up? (s : Screen) : Option Screen := do
  let bottom ← last? s.size.lines
  some { s with cursor := ⟨if s.cursor.row = 0 then bottom else s.cursor.row - 1, s.cursor.col⟩ }

def down? (s : Screen) : Option Screen := do
  let row ← wrap? (s.cursor.row + 1) s.size.lines
  some { s with cursor := ⟨row, s.cursor.col⟩ }

/-- The places whose cell blinks, among all that have a cell. -/
def blinkingPlaces (s : Screen) : List (Nat × Nat) :=
  s.cells.places.filter fun p => (s.cell? p.1 p.2).any fun cell => cell.attributes.blink

def markBlinkingDirty? (s : Screen) : Option Screen := do
  s.touchAll? s.blinkingPlaces
  some s.markBlinkingDirty

def setBlinkEnabled? (s : Screen) (on : Bool) : Option Screen :=
  if s.blinkEnabled = on then some s else { s with blinkEnabled := on }.markBlinkingDirty?

def toggleBlinkPhase? (s : Screen) : Option Screen :=
  { s with blinkPhase := !s.blinkPhase }.markBlinkingDirty?

/-- A snapshot looks at every place that has a cell. -/
def snapshot? (s : Screen) : Option (List CellView) := do
  s.touchAll? s.cells.places
  some s.snapshot

variable {s : Screen}

theorem last?_eq {n : Nat} (h : 0 < n) : last? n = some (n - 1) :=
  if_neg (Nat.ne_of_gt h)

theorem wrap?_eq {i n : Nat} (h : 0 < n) : wrap? i n = some (i % n) :=
  if_neg (Nat.ne_of_gt h)

theorem WellFormed.touch? (hs : s.WellFormed) {x y : Nat} (hx : x < s.size.cols)
    (hy : y < s.size.lines) : s.touch? x y = some () := by
  obtain ⟨cell, hcell⟩ := hs.cells_shape.exists_get? hx hy
  obtain ⟨flag, hflag⟩ := hs.dirty_shape.exists_get? hx hy
  obtain ⟨row, hrow, hat⟩ := Option.bind_eq_some_iff.mp hcell
  have htable := hs.dirty_shape.getElem?_flat (y := y) hx
  simp [Screen.touch?, hrow, hat, htable, hflag]

theorem WellFormed.touchAll? (hs : s.WellFormed) {places : List (Nat × Nat)}
    (h : ∀ p ∈ places, p.1 < s.size.cols ∧ p.2 < s.size.lines) :
    s.touchAll? places = some () := by
  induction places with
  | nil => rfl
  | cons p places ih =>
      have hp := h p List.mem_cons_self
      have hrest := ih fun q hq => h q (List.mem_cons_of_mem p hq)
      have htouch := hs.touch? hp.1 hp.2
      rw [Screen.touchAll?, List.forM_cons, htouch]
      exact hrest

theorem WellFormed.snapshot? (hs : s.WellFormed) : s.snapshot? = some s.snapshot := by
  have hall := hs.touchAll? fun p hp => hs.cells_shape.lt_of_mem_places hp
  rw [Screen.snapshot?, hall]
  rfl

theorem WellFormed.write? (hs : s.WellFormed) (x y : Nat) (cell : Cell) :
    s.write? x y cell = some (s.write x y cell) := by
  unfold Screen.write?
  split
  · next h =>
      rw [hs.touch? h.1 h.2]
      rfl
  · next h =>
      have hcells := hs.cells_shape.set_eq_self h cell
      have hdirty := hs.dirty_shape.set_eq_self h true
      rw [Screen.write, hcells, hdirty]

theorem WellFormed.blankAll? (hs : s.WellFormed) (places : List (Nat × Nat)) :
    s.blankAll? places =
      some { s with
        cells := s.cells.setAll places .blank
        dirty := s.dirty.setAll places true } := by
  induction places generalizing s with
  | nil => rfl
  | cons p places ih =>
      have hwrite : (s.write p.1 p.2 .blank).WellFormed :=
        (Change.write p.1 p.2 .blank rfl).wellFormed hs
      rw [Screen.blankAll?, List.foldlM_cons, hs.write? p.1 p.2 .blank]
      exact ih hwrite

theorem WellFormed.eraseToRight? (hs : s.WellFormed) :
    s.eraseToRight? = some s.eraseToRight := by
  have hcells := hs.cells_shape.setAll_row (x := s.cursor.col) (y := s.cursor.row) Cell.blank
  have hdirty := hs.dirty_shape.setAll_row (x := s.cursor.col) (y := s.cursor.row) true
  rw [Screen.eraseToRight?, hs.blankAll?, hcells, hdirty]
  rfl

theorem WellFormed.erasePage? (hs : s.WellFormed) : s.erasePage? = some s.erasePage := by
  have hcells := hs.cells_shape.setAll_positions Cell.blank
  have hdirty := hs.dirty_shape.setAll_positions true
  rw [Screen.erasePage?, hs.blankAll?, hcells, hdirty]
  rfl

theorem WellFormed.scroll? (hs : s.WellFormed) : s.scroll? = some s.scroll := by
  have hsize := hs.cells_shape.1
  have hpos := s.size.lines_pos
  have hrow : s.cells.rows[0]? = some s.cells.rows[0] := Array.getElem?_eq_getElem (by omega)
  rw [Screen.scroll?, hrow]
  rfl

theorem moveTo?_eq (x y : Nat) : s.moveTo? x y = some (s.moveTo x y) := by
  rw [moveTo?, last?_eq s.size.cols_pos, last?_eq s.size.lines_pos]
  rfl

theorem WellFormed.newLine? (hs : s.WellFormed) : s.newLine? = some s.newLine := by
  unfold Screen.newLine? Screen.newLine
  split
  · rfl
  · split
    · have hreturn : ({ s with cursor := ⟨s.cursor.row, 0⟩ } : Screen).WellFormed :=
        ⟨hs.cells_shape, hs.dirty_shape, hs.row_lt, s.size.cols_pos⟩
      exact hreturn.scroll?
    · rfl

theorem WellFormed.advance? (hs : s.WellFormed) : s.advance? = some s.advance := by
  unfold Screen.advance? Screen.advance
  split
  · rfl
  · exact hs.newLine?

theorem WellFormed.put? (hs : s.WellFormed) {code : UInt8}
    (hcode : Decoder.isPrintable code = true) : s.put? code = some (s.put code) := by
  have hwritten : (s.write s.cursor.col s.cursor.row ⟨code, s.attributes⟩).WellFormed :=
    (Change.write _ _ _ hcode).wellFormed hs
  rw [Screen.put?, hs.write?]
  exact hwritten.advance?

theorem right?_eq : s.right? = some s.right := by
  unfold right? right
  split
  · rfl
  · rw [wrap?_eq s.size.lines_pos]
    rfl

theorem up?_eq : s.up? = some s.up := by
  rw [up?, last?_eq s.size.lines_pos]
  rfl

theorem down?_eq : s.down? = some s.down := by
  rw [down?, wrap?_eq s.size.lines_pos]
  rfl

theorem WellFormed.markBlinkingDirty? (hs : s.WellFormed) :
    s.markBlinkingDirty? = some s.markBlinkingDirty := by
  have hall : s.touchAll? s.blinkingPlaces = some () :=
    hs.touchAll? fun p hp => hs.cells_shape.lt_of_mem_places (List.mem_of_mem_filter hp)
  rw [Screen.markBlinkingDirty?, hall]
  rfl

theorem WellFormed.setBlinkEnabled? (hs : s.WellFormed) (on : Bool) :
    s.setBlinkEnabled? on = some (s.setBlinkEnabled on) := by
  unfold Screen.setBlinkEnabled? Screen.setBlinkEnabled
  split
  · rfl
  · have hon : ({ s with blinkEnabled := on } : Screen).WellFormed :=
      ⟨hs.cells_shape, hs.dirty_shape, hs.row_lt, hs.col_lt⟩
    exact hon.markBlinkingDirty?

theorem WellFormed.toggleBlinkPhase? (hs : s.WellFormed) :
    s.toggleBlinkPhase? = some s.toggleBlinkPhase := by
  have hphase : ({ s with blinkPhase := !s.blinkPhase } : Screen).WellFormed :=
    ⟨hs.cells_shape, hs.dirty_shape, hs.row_lt, hs.col_lt⟩
  exact hphase.markBlinkingDirty?

end DasherTerminal.Screen
