import Mathlib.Data.List.DropRight
import DasherTerminal.Screen.Wrapping
import DasherTerminal.Screen.Basic
import DasherTerminal.Proofs.Screen.Grid

/-!
# Rows of text on a screen

A screen in roll mode shows the last rows of what was written to it, and its
history ends with the rows before them. A code extends the last row; a new line
begins another, whether or not the screen has to scroll for it.
-/

namespace DasherTerminal

namespace History

theorem toList_push {h : History} {xs : List String} (hx : h.lines.toList = xs.rtake h.capacity)
    (line : String) : (h.push line).lines.toList = (xs ++ [line]).rtake h.capacity := by
  have hsize : (h.lines.push line).size = xs.length - (xs.length - h.capacity) + 1 := by
    rw [Array.size_push, ← Array.length_toList, hx, List.rtake, List.length_drop]
  have hpush : (h.lines.push line).toList = xs.drop (xs.length - h.capacity) ++ [line] := by
    rw [Array.toList_push, hx, List.rtake]
  have hlast : xs.length - h.capacity ≤ xs.length := Nat.sub_le ..
  rw [List.rtake, List.length_append, List.length_singleton]
  unfold push
  dsimp only
  split
  · have hold : xs.length - h.capacity = 0 := by omega
    have hall : xs.length + 1 - h.capacity = 0 := by omega
    rw [hpush, hold, hall, List.drop_zero, List.drop_zero]
  · have hnext : xs.length + 1 - h.capacity = xs.length - h.capacity + 1 := by omega
    rw [hnext, ← List.drop_drop, List.drop_append_of_le_length hlast, ← hpush]
    rw [Array.toList_extract, List.extract_eq_take_drop]
    exact List.take_of_length_le (by simp)

end History

namespace Wrapping

/-- The cells that show a row without attributes. -/
def cells (width : Nat) (row : List UInt8) : Array Cell :=
  ((row.rightpad width blankCode).map fun code => (⟨code, .plain⟩ : Cell)).toArray

/-- A row as the history keeps it. -/
def line (width : Nat) (row : List UInt8) : String :=
  String.ofList ((row.rightpad width blankCode).map charOfCode)

theorem textOfCells_cells (width : Nat) (row : List UInt8) :
    Screen.textOfCells (cells width row) = line width row := by
  simp [Screen.textOfCells, cells, line, Function.comp_def]

theorem cells_nil (width : Nat) : cells width [] = Array.replicate width .blank := by
  simp [cells, List.rightpad, Cell.blank]

/-- The first blank of a row is where its next code goes. -/
theorem setIfInBounds_cells {width : Nat} {row : List UInt8} (h : row.length < width)
    (code : UInt8) :
    (cells width row).setIfInBounds row.length ⟨code, .plain⟩ = cells width (row ++ [code]) := by
  obtain ⟨n, hn⟩ : ∃ n, width - row.length = n + 1 := ⟨width - row.length - 1, by omega⟩
  have hnext : width - (row.length + 1) = n := by omega
  apply Array.toList_inj.mp
  simp [cells, List.rightpad, hn, hnext, List.replicate_succ, List.set_append_right]

end Wrapping

namespace Screen

/-- After `before` was cleared and written to in roll mode, `s` shows the last of
these rows, has scrolled the others into the history, and stands in the last row. -/
structure Shows (before s : Screen) (rows : List (List UInt8)) (col : Nat) : Prop where
  size : s.size = before.size
  capacity : s.history.capacity = before.history.capacity
  attributes : s.attributes = .plain
  roll : s.roll = true
  cursor : s.cursor = ⟨min rows.length before.size.lines - 1, col⟩
  cells : s.cells.rows.toList =
    (rows.rtake before.size.lines).map (Wrapping.cells before.size.cols) ++
      List.replicate (before.size.lines - rows.length) (Array.replicate before.size.cols .blank)
  history : s.history.lines.toList =
    (before.history.lines.toList ++
      (rows.take (rows.length - before.size.lines)).map (Wrapping.line before.size.cols)).rtake
        before.history.capacity

variable {before s : Screen} {rows done : List (List UInt8)} {row : List UInt8} {col : Nat}

theorem shows_cleared (hfits : before.history.lines.size ≤ before.history.capacity) :
    before.Shows (before.erasePage.setRoll true) [[]] 0 := by
  have hlines := before.size.lines_pos
  have hone : min 1 before.size.lines - 1 = 0 := by omega
  have hnone : 1 - before.size.lines = 0 := by omega
  have hall : before.history.lines.toList.length - before.history.capacity = 0 := by
    rw [Array.length_toList]
    omega
  refine ⟨rfl, rfl, rfl, rfl, ?_, ?_, ?_⟩
  · simp [setRoll, erasePage, Cursor.home, hone]
  · have hrest : before.size.lines = before.size.lines - 1 + 1 := by omega
    rw [List.rtake, List.length_singleton, hnone, List.drop_zero, List.map_singleton,
      Wrapping.cells_nil, List.singleton_append, ← List.replicate_succ, ← hrest]
    simp [setRoll, erasePage, Grid.replicate]
  · rw [List.length_singleton, hnone, List.take_zero, List.map_nil, List.append_nil, List.rtake,
      hall, List.drop_zero]
    rfl

theorem Shows.write (h : before.Shows s (done ++ [row]) row.length)
    (hfits : row.length < before.size.cols) (code : UInt8) :
    before.Shows (s.write s.cursor.col s.cursor.row ⟨code, s.attributes⟩)
      (done ++ [row ++ [code]]) row.length := by
  obtain ⟨height, hheight⟩ : ∃ n, before.size.lines = n + 1 :=
    ⟨before.size.lines - 1, by have := before.size.lines_pos; omega⟩
  have hcursor := h.cursor
  have hcells := h.cells
  have hhistory := h.history
  refine ⟨h.size, h.capacity, h.attributes, h.roll, ?_, ?_, ?_⟩
  · rw [List.length_append, List.length_singleton] at hcursor ⊢
    exact hcursor
  · have htop : min (done.length + 1) (height + 1) - 1 =
        ((done.rtake height).map (Wrapping.cells before.size.cols)).length := by
      rw [List.length_map, List.rtake, List.length_drop]
      omega
    have hset := Wrapping.setIfInBounds_cells hfits code
    rw [hheight, List.rtake_concat_succ, List.map_append, List.map_singleton, List.append_assoc,
      List.length_append, List.length_singleton] at hcells ⊢
    rw [hheight, List.length_append, List.length_singleton, htop] at hcursor
    simp only [Screen.write, Grid.set, Array.toList_modify, hcursor, h.attributes, hcells]
    generalize (done.rtake height).map (Wrapping.cells before.size.cols) = top
    rw [List.modify_eq_take_cons_drop (by simp)]
    simp [hset]
  · have hscrolled : done.length + 1 - before.size.lines ≤ done.length := by omega
    simpa [Screen.write, List.take_append_of_le_length hscrolled] using hhistory

theorem Shows.right (h : before.Shows s rows col) (next : Nat) :
    before.Shows { s with cursor := ⟨s.cursor.row, next⟩ } rows next := by
  have hrow := congrArg Cursor.row h.cursor
  exact ⟨h.size, h.capacity, h.attributes, h.roll, by rw [hrow], h.cells, h.history⟩

theorem history_scroll {line : String} (h : s.rowText? 0 = some line) :
    s.scroll.history = s.history.push line := by
  simp only [Screen.scroll, h]

/-- Rows that fit on the screen have not been scrolled. -/
theorem Shows.newLine_of_lt (h : before.Shows s rows col) (hroom : rows.length < before.size.lines) :
    before.Shows { s with cursor := ⟨rows.length, 0⟩ } (rows ++ [[]]) 0 := by
  have hcells := h.cells
  have hhistory := h.history
  have hnone : rows.length - before.size.lines = 0 := by omega
  have hnext : rows.length + 1 - before.size.lines = 0 := by omega
  have hrow : min (rows.length + 1) before.size.lines - 1 = rows.length := by omega
  have hrest : before.size.lines - rows.length = before.size.lines - (rows.length + 1) + 1 := by
    omega
  refine ⟨h.size, h.capacity, h.attributes, h.roll, ?_, ?_, ?_⟩
  · rw [List.length_append, List.length_singleton, hrow]
  · rw [List.rtake, hnone, List.drop_zero, hrest, List.replicate_succ] at hcells
    rw [List.rtake, List.length_append, List.length_singleton, hnext, List.drop_zero,
      List.map_append, List.map_singleton, Wrapping.cells_nil, List.append_assoc]
    exact hcells
  · rw [hnone, List.take_zero] at hhistory
    rw [List.length_append, List.length_singleton, hnext, List.take_zero]
    exact hhistory

/-- On a full screen the top row goes to the history. -/
theorem Shows.newLine_of_le (h : before.Shows s rows col) (hfull : before.size.lines ≤ rows.length) :
    before.Shows ({ s with cursor := ⟨before.size.lines - 1, 0⟩ } : Screen).scroll
      (rows ++ [[]]) 0 := by
  have hlines := before.size.lines_pos
  have hcells := h.cells
  have hhistory := h.history
  have hnone : before.size.lines - rows.length = 0 := by omega
  have hfirst : rows.length - before.size.lines < rows.length := by omega
  have hnext : rows.length + 1 - before.size.lines = rows.length - before.size.lines + 1 := by
    omega
  have hgone : before.size.lines - (rows.length + 1) = 0 := by omega
  have hrow : min (rows.length + 1) before.size.lines - 1 = before.size.lines - 1 := by omega
  rw [hnone, List.replicate_zero, List.append_nil, List.rtake, List.drop_eq_getElem_cons hfirst,
    List.map_cons] at hcells
  have htop : s.rowText? 0 =
      some (Wrapping.line before.size.cols rows[rows.length - before.size.lines]) := by
    rw [rowText?, ← Array.getElem?_toList, hcells, List.getElem?_cons_zero, Option.map_some,
      Wrapping.textOfCells_cells]
  have hpush : ({ s with cursor := ⟨before.size.lines - 1, 0⟩ } : Screen).scroll.history =
      s.history.push (Wrapping.line before.size.cols rows[rows.length - before.size.lines]) :=
    history_scroll htop
  refine ⟨h.size, ?_, h.attributes, h.roll, ?_, ?_, ?_⟩
  · rw [hpush]
    exact h.capacity
  · rw [List.length_append, List.length_singleton, hrow]
    rfl
  · rw [List.length_append, List.length_singleton, List.rtake, List.length_append,
      List.length_singleton, hnext, List.drop_append_of_le_length hfirst, hgone,
      List.replicate_zero, List.append_nil, List.map_append, List.map_singleton,
      Wrapping.cells_nil]
    rw [Screen.scroll, Grid.toList_shiftUp, hcells, List.tail_cons, h.size]
  · rw [hpush]
    rw [List.length_append, List.length_singleton, hnext, List.take_append_of_le_length hfirst,
      List.take_add_one, List.getElem?_eq_getElem hfirst, Option.toList_some, List.map_append,
      List.map_singleton, ← List.append_assoc, ← h.capacity]
    rw [← h.capacity] at hhistory
    exact History.toList_push hhistory _

/-- The screen scrolls when all its lines are taken. -/
theorem Shows.newLine (h : before.Shows s rows col) (hrows : rows ≠ []) :
    before.Shows s.newLine (rows ++ [[]]) 0 := by
  have hlines := before.size.lines_pos
  have hpos := List.length_pos_iff.mpr hrows
  have hcursor := h.cursor
  by_cases hroom : rows.length < before.size.lines
  · have hrow : min rows.length before.size.lines - 1 + 1 = rows.length := by omega
    have hdown : s.cursor.row + 1 < s.size.lines := by
      rw [hcursor, h.size, hrow]
      exact hroom
    rw [Screen.newLine, if_pos hdown, hcursor, hrow]
    exact h.newLine_of_lt hroom
  · have hrow : min rows.length before.size.lines - 1 = before.size.lines - 1 := by omega
    have hlast : ¬s.cursor.row + 1 < s.size.lines := by
      rw [hcursor, h.size, hrow]
      dsimp only
      omega
    rw [Screen.newLine, if_neg hlast, if_pos h.roll, hcursor, hrow]
    exact h.newLine_of_le (Nat.le_of_not_lt hroom)

theorem Shows.put_of_lt (h : before.Shows s (done ++ [row]) row.length)
    (hroom : row.length + 1 < before.size.cols) (code : UInt8) :
    before.Shows (s.put code) (done ++ [row ++ [code]]) (row.length + 1) := by
  have hwrite := h.write (Nat.lt_of_succ_lt hroom) code
  have hcol := congrArg Cursor.col hwrite.cursor
  dsimp only at hcol
  rw [put, advance, if_pos (by rw [hcol, hwrite.size]; exact hroom), hcol]
  exact hwrite.right (row.length + 1)

/-- A row that is full is followed by another at once. -/
theorem Shows.put_of_le (h : before.Shows s (done ++ [row]) row.length)
    (hfits : row.length < before.size.cols) (hfull : before.size.cols ≤ row.length + 1)
    (code : UInt8) : before.Shows (s.put code) (done ++ [row ++ [code]] ++ [[]]) 0 := by
  have hwrite := h.write hfits code
  have hcol := congrArg Cursor.col hwrite.cursor
  dsimp only at hcol
  rw [put, advance, if_neg (by rw [hcol, hwrite.size]; omega)]
  exact hwrite.newLine (by simp)

end Screen

end DasherTerminal
