import DasherTerminal.Proofs.Screen.Page
import DasherTerminal.Proofs.Screen.Replica

/-!
# Scrolling

What scrolling does to every cell and to the history, and the only two places
where the cursor's way onwards makes the screen scroll: a new line on the last
line, and a code at the bottom right corner, both in roll mode.
-/

namespace DasherTerminal.Screen

/-- `t` is `s` scrolled: every row is one higher, the top row is the newest line
of the history, the bottom row is blank, and everything has to be drawn again. -/
structure ScrollsTo (s t : Screen) : Prop where
  moved : ∀ x y, y + 1 < s.size.lines → t.cell? x y = s.cell? x (y + 1)
  blanked : ∀ x, x < s.size.cols → t.cell? x (s.size.lines - 1) = some .blank
  history : ∃ line, s.rowText? 0 = some line ∧ t.history.capacity = s.history.capacity ∧
    t.history.lines.toList = (s.history.lines.toList ++ [line]).rtake s.history.capacity
  dirty : ∀ x y, x < s.size.cols → y < s.size.lines → t.dirty.get? x y = some true

variable {s t : Screen}

/-- No change lowers a dirty flag. -/
theorem Changes.dirty_of_dirty (h : s.Changes t) (hs : s.WellFormed) {x y : Nat}
    (hdirty : s.dirty.get? x y = some true) : t.dirty.get? x y = some true := by
  have hxy : x < s.size.cols ∧ y < s.size.lines := hs.dirty_shape.lt_of_get? hdirty
  rw [← h.size_eq] at hxy
  obtain ⟨flag, hflag⟩ := (h.wellFormed hs).dirty_shape.exists_get? hxy.1 hxy.2
  cases flag with
  | true => exact hflag
  | false =>
      obtain ⟨_, hclean, _⟩ := h.transitions.keepsClean x y hflag
      rw [hdirty] at hclean
      cases hclean

theorem WellFormed.exists_rowText? (hs : s.WellFormed) {y : Nat} (hy : y < s.size.lines) :
    ∃ line, s.rowText? y = some line := by
  have hsize := hs.cells_shape.1
  have hrow : s.cells.rows[y]? = some s.cells.rows[y] := Array.getElem?_eq_getElem (by omega)
  exact ⟨_, by rw [rowText?, hrow, Option.map_some]⟩

theorem Sound.scrollsTo_scroll (hs : s.Sound) : s.ScrollsTo s.scroll := by
  have hlines := s.size.lines_pos
  have hget := fun x y => Grid.get?_shiftUp (x := x) (y := y) (a := Cell.blank)
    hs.wellFormed.cells_shape hlines
  refine ⟨?_, ?_, ?_, ?_⟩
  · intro x y hy
    have hinner : ¬(y + 1 = s.size.lines ∧ x < s.size.cols) := by omega
    exact (hget x y).trans (if_neg hinner)
  · intro x hx
    have hbottom : s.size.lines - 1 + 1 = s.size.lines := by omega
    exact (hget x _).trans (if_pos ⟨hbottom, hx⟩)
  · obtain ⟨line, hline⟩ := hs.wellFormed.exists_rowText? hlines
    have hall : s.history.lines.toList = s.history.lines.toList.rtake s.history.capacity := by
      have hfits := hs.history_fits
      rw [← Array.length_toList] at hfits
      rw [List.rtake, Nat.sub_eq_zero_of_le hfits, List.drop_zero]
    refine ⟨line, hline, ?_, ?_⟩
    · rw [history_scroll hline, History.capacity_push]
    · rw [history_scroll hline]
      exact History.toList_push hall line
  · intro x y hx hy
    obtain ⟨flag, hflag⟩ := hs.wellFormed.dirty_shape.exists_get? hx hy
    change (s.dirty.map fun _ => true).get? x y = some true
    rw [Grid.get?_map, hflag, Option.map_some]

theorem Sound.scrollsTo_newLine (hs : s.Sound) (hlast : s.cursor.row + 1 = s.size.lines)
    (hroll : s.roll = true) : s.ScrollsTo s.newLine := by
  have hreturn : ({ s with cursor := ⟨s.cursor.row, 0⟩ } : Screen).Sound :=
    hs.of_cells_eq ⟨hs.wellFormed.cells_shape, hs.wellFormed.dirty_shape, hs.wellFormed.row_lt,
      s.size.cols_pos⟩ rfl rfl
  have hscroll := hreturn.scrollsTo_scroll
  rw [newLine, if_neg (by omega), if_pos hroll]
  exact ⟨hscroll.moved, hscroll.blanked, hscroll.history, hscroll.dirty⟩

theorem WellFormed.newLine_eq (hs : s.WellFormed)
    (hstays : ¬(s.cursor.row + 1 = s.size.lines ∧ s.roll = true)) :
    ∃ cursor, s.newLine = { s with cursor } := by
  have hrow := hs.row_lt
  unfold newLine
  split
  · exact ⟨_, rfl⟩
  · next hlast =>
      rw [if_neg fun hroll => hstays ⟨by omega, hroll⟩]
      exact ⟨_, rfl⟩

theorem WellFormed.cell?_write (hs : s.WellFormed) (cell : Cell) (x y : Nat) :
    (s.write s.cursor.col s.cursor.row cell).cell? x y =
      if x = s.cursor.col ∧ y = s.cursor.row then some cell else s.cell? x y := by
  obtain ⟨old, hold⟩ := hs.cells_shape.exists_get? hs.col_lt hs.row_lt
  rw [cell?, write, Grid.get?_set]
  split
  · next hat => rw [hat.1, hat.2, hold, Option.map_some]
  · rfl

theorem rowText?_write {x y row : Nat} (cell : Cell) (h : y ≠ row) :
    (s.write x row cell).rowText? y = s.rowText? y := by
  rw [rowText?, rowText?, write, Grid.set, Array.getElem?_modify, if_neg h.symm]

theorem put_of_eq (code : UInt8) (hcol : s.cursor.col + 1 = s.size.cols) :
    s.put code = (s.write s.cursor.col s.cursor.row ⟨code, s.attributes⟩).newLine :=
  if_neg (Nat.not_lt_of_le (Nat.le_of_eq hcol.symm))

theorem Sound.scrollsTo_put (hs : s.Sound) {code : UInt8}
    (hcode : Decoder.isPrintable code = true) (hrow : s.cursor.row + 1 = s.size.lines)
    (hcol : s.cursor.col + 1 = s.size.cols) (hroll : s.roll = true) :
    (s.write s.cursor.col s.cursor.row ⟨code, s.attributes⟩).ScrollsTo (s.put code) := by
  have hwritten : (s.write s.cursor.col s.cursor.row ⟨code, s.attributes⟩).Sound :=
    (Change.write _ _ _ hcode).sound hs
  rw [put_of_eq code hcol]
  exact hwritten.scrollsTo_newLine hrow hroll

theorem WellFormed.put_eq (hs : s.WellFormed) {code : UInt8}
    (hcode : Decoder.isPrintable code = true)
    (hstays : ¬(s.cursor.row + 1 = s.size.lines ∧ s.cursor.col + 1 = s.size.cols ∧
      s.roll = true)) :
    ∃ cursor, s.put code =
      { s.write s.cursor.col s.cursor.row ⟨code, s.attributes⟩ with cursor } := by
  have hwritten : (s.write s.cursor.col s.cursor.row ⟨code, s.attributes⟩).WellFormed :=
    (Change.write _ _ _ hcode).wellFormed hs
  rw [put, advance]
  split
  · exact ⟨_, rfl⟩
  · next hright =>
      have hcol : s.cursor.col + 1 = s.size.cols := by
        have hlt := hs.col_lt
        have hle := Nat.le_of_not_lt hright
        dsimp only [write] at hle
        omega
      exact hwritten.newLine_eq fun hscrolls => hstays ⟨hscrolls.1, hcol, hscrolls.2⟩

end DasherTerminal.Screen
