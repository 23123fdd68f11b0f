import DasherTerminal.Proofs.Screen.Scroll

/-!
# Writing along a row

Codes that fit into the cursor's row before its last place replace the cells
there, and nothing else. A row that is full in roll mode at the bottom of the
screen moves up, and the next text begins under it.
-/

namespace DasherTerminal.Screen

variable {s : Screen}

theorem WellFormed.rowText?_eq (hs : s.WellFormed) {y : Nat} (hy : y < s.size.lines)
    {codes : List UInt8} (hlength : codes.length = s.size.cols)
    (hcodes : ∀ x, x < s.size.cols → (s.cell? x y).map Cell.code = codes[x]?) :
    s.rowText? y = some (String.ofList (codes.map charOfCode)) := by
  have hsize := hs.cells_shape.1
  have hrow : s.cells.rows[y]? = some s.cells.rows[y] := Array.getElem?_eq_getElem (by omega)
  have hwidth : s.cells.rows[y].size = s.size.cols := hs.cells_shape.2 _ (Array.getElem_mem _)
  have hlist : s.cells.rows[y].toList.map Cell.code = codes := by
    apply List.ext_getElem?
    intro x
    by_cases hx : x < s.size.cols
    · rw [← hcodes x hx, cell?, Grid.get?, hrow]
      simp
    · rw [List.getElem?_eq_none (by simp; omega), List.getElem?_eq_none (by omega)]
  rw [rowText?, hrow, Option.map_some, textOfCells, ← hlist, List.map_map]
  rfl

theorem WellFormed.rowText?_congr {t : Screen} (hs : s.WellFormed) (ht : t.WellFormed)
    (hsize : t.size = s.size) {y : Nat} (hy : y < s.size.lines)
    (hcells : ∀ x, t.cell? x y = s.cell? x y) : t.rowText? y = s.rowText? y := by
  have hheight := hs.cells_shape.1
  have hheight' := ht.cells_shape.1
  rw [hsize] at hheight'
  have hrow : s.cells.rows[y]? = some s.cells.rows[y] := Array.getElem?_eq_getElem (by omega)
  have hrow' : t.cells.rows[y]? = some t.cells.rows[y] := Array.getElem?_eq_getElem (by omega)
  have heq : t.cells.rows[y] = s.cells.rows[y] := by
    apply Array.ext_getElem?
    intro x
    have hcell := hcells x
    rw [cell?, cell?, Grid.get?, Grid.get?, hrow, hrow'] at hcell
    exact hcell
  rw [rowText?, rowText?, hrow, hrow', heq]

/-- `t` is `s` after the text has been written along the cursor's row. -/
structure Wrote (s t : Screen) (text : List UInt8) : Prop where
  frame : ∃ cells dirty, t =
    { s with cells, dirty, cursor := ⟨s.cursor.row, s.cursor.col + text.length⟩ }
  cell? : ∀ x y, t.cell? x y =
    if y = s.cursor.row ∧ s.cursor.col ≤ x ∧ x < s.cursor.col + text.length then
      text[x - s.cursor.col]?.map fun code => ⟨code, s.attributes⟩
    else s.cell? x y

theorem wrote_nil : s.Wrote s [] :=
  ⟨⟨s.cells, s.dirty, rfl⟩, fun x y => (if_neg (by simp only [List.length_nil]; omega)).symm⟩

theorem Wrote.cons {t u : Screen} {code : UInt8} {text : List UInt8} (hs : s.WellFormed)
    (ht : t = { s.write s.cursor.col s.cursor.row ⟨code, s.attributes⟩ with
      cursor := ⟨s.cursor.row, s.cursor.col + 1⟩ })
    (h : t.Wrote u text) : s.Wrote u (code :: text) := by
  obtain ⟨⟨cells, dirty, hframe⟩, hcell⟩ := h
  subst ht
  refine ⟨⟨cells, dirty, ?_⟩, ?_⟩
  · rw [hframe, List.length_cons]
    simp only [write, Nat.add_assoc, Nat.add_comm 1]
  · intro x y
    have hwrite : ({ s.write s.cursor.col s.cursor.row ⟨code, s.attributes⟩ with
        cursor := ⟨s.cursor.row, s.cursor.col + 1⟩ } : Screen).cell? x y =
          if x = s.cursor.col ∧ y = s.cursor.row then some ⟨code, s.attributes⟩
          else s.cell? x y := hs.cell?_write _ x y
    rw [hcell, hwrite, List.length_cons]
    dsimp only [write]
    -- The first place holds the first code; the places after it belong to the rest.
    by_cases hhead : x = s.cursor.col ∧ y = s.cursor.row
    · obtain ⟨rfl, rfl⟩ := hhead
      rw [if_neg (by omega), if_pos ⟨rfl, rfl⟩, if_pos (by omega), Nat.sub_self,
        List.getElem?_cons_zero, Option.map_some]
    · rw [if_neg hhead]
      by_cases htail : y = s.cursor.row ∧ s.cursor.col + 1 ≤ x ∧
          x < s.cursor.col + 1 + text.length
      · have hindex : x - s.cursor.col = x - (s.cursor.col + 1) + 1 := by omega
        rw [if_pos htail, if_pos (by omega), hindex, List.getElem?_cons_succ]
      · rw [if_neg htail, if_neg (by omega)]

theorem WellFormed.wrote (hs : s.WellFormed) {text : List UInt8}
    (htext : ∀ code ∈ text, Decoder.isPrintable code = true)
    (hfits : s.cursor.col + text.length < s.size.cols) : s.Wrote (text.foldl put s) text := by
  induction text generalizing s with
  | nil => exact wrote_nil
  | cons code text ih =>
      rw [List.length_cons] at hfits
      have hput : s.put code = { s.write s.cursor.col s.cursor.row ⟨code, s.attributes⟩ with
          cursor := ⟨s.cursor.row, s.cursor.col + 1⟩ } := by
        rw [put, advance, if_pos (by simp only [write]; omega)]
        rfl
      have hnext := (changes_put hs (htext code List.mem_cons_self)).wellFormed hs
      have hrest := ih hnext (fun c hc => htext c (List.mem_cons_of_mem code hc))
        (by rw [hput]; simp only [write]; omega)
      exact Wrote.cons hs hput hrest

theorem WellFormed.rowText?_wrote {t : Screen} (hs : s.WellFormed) {text : List UInt8}
    (hwrote : s.Wrote t text) (ht : t.WellFormed) (hcol : s.cursor.col = 0)
    (hfits : text.length ≤ s.size.cols)
    (hblank : ∀ x, x < s.size.cols → s.cell? x s.cursor.row = some .blank) :
    t.rowText? s.cursor.row = some (Wrapping.line s.size.cols text) := by
  obtain ⟨⟨cells, dirty, hframe⟩, hcell⟩ := hwrote
  have hsize : t.size = s.size := by rw [hframe]
  refine ht.rowText?_eq (by rw [hsize]; exact hs.row_lt) ?_ ?_
  · rw [hsize, List.rightpad, List.length_append, List.length_replicate]
    omega
  · intro x hx
    rw [hsize] at hx
    rw [hcell, hcol, List.rightpad]
    by_cases hin : x < text.length
    · rw [if_pos ⟨rfl, Nat.zero_le x, by omega⟩, List.getElem?_append_left hin, Nat.sub_zero,
        List.getElem?_eq_getElem hin]
      rfl
    · rw [if_neg (by omega), hblank x hx, List.getElem?_append_right (Nat.le_of_not_lt hin),
        List.getElem?_replicate, if_pos (by omega)]
      rfl

/-- `t` is `s` after a full line at the bottom in roll mode: the line has moved
up, and the cursor is at the beginning of the blank line under it. -/
structure FilledBottom (s t : Screen) (text : List UInt8) : Prop where
  size : t.size = s.size
  cursor : t.cursor = ⟨s.size.lines - 1, 0⟩
  history : ∃ line, s.rowText? 0 = some line ∧ t.history = s.history.push line
  written : ∀ x, x < s.size.cols → (t.cell? x (s.size.lines - 2)).map Cell.code = text[x]?
  blanked : ∀ x, x < s.size.cols → t.cell? x (s.size.lines - 1) = some .blank
  dirty : ∀ x y, x < s.size.cols → y < s.size.lines → t.dirty.get? x y = some true

theorem WellFormed.changes_text (hs : s.WellFormed) {text : List UInt8}
    (htext : ∀ code ∈ text, Decoder.isPrintable code = true) : s.Changes (text.foldl put s) := by
  induction text generalizing s with
  | nil => exact .refl
  | cons code text ih =>
      have hput := changes_put hs (htext code List.mem_cons_self)
      exact hput.trans
        (ih (hput.wellFormed hs) fun c hc => htext c (List.mem_cons_of_mem code hc))

/-- A new line on the last line moves up what is there. -/
theorem Sound.filledBottom_newLine {w : Screen} {text : List UInt8} (hw : w.Sound)
    (hsize : w.size = s.size) (hhistory : w.history = s.history)
    (hrow : w.cursor.row + 1 = w.size.lines) (hroll : w.roll = true)
    (htop : w.rowText? 0 = s.rowText? 0)
    (hbottom : ∀ x, x < s.size.cols → (w.cell? x (s.size.lines - 1)).map Cell.code = text[x]?) :
    s.FilledBottom w.newLine text := by
  have hlines := s.size.one_lt_lines
  have hscroll := hw.scrollsTo_newLine hrow hroll
  have hline : w.newLine = ({ w with cursor := ⟨w.cursor.row, 0⟩ } : Screen).scroll := by
    rw [newLine, if_neg (Nat.not_lt_of_le hrow.ge), if_pos hroll]
  have hlast : w.cursor.row = s.size.lines - 1 := by
    rw [← hsize]
    omega
  refine ⟨?_, ?_, ?_, ?_, ?_, ?_⟩
  · rw [hline]
    exact hsize
  · rw [hline, hlast]
    rfl
  · have hheight : 0 < w.size.lines := w.size.lines_pos
    obtain ⟨line, htext⟩ := hw.wellFormed.exists_rowText? hheight
    refine ⟨line, htop ▸ htext, ?_⟩
    have hreturned : ({ w with cursor := ⟨w.cursor.row, 0⟩ } : Screen).rowText? 0 = some line :=
      htext
    rw [hline, history_scroll hreturned, ← hhistory]
  · intro x hx
    have habove : s.size.lines - 2 + 1 = s.size.lines - 1 := by omega
    rw [hscroll.moved x _ (by rw [hsize]; omega), habove]
    exact hbottom x hx
  · intro x hx
    have hblank := hscroll.blanked x (hsize ▸ hx)
    rw [hsize] at hblank
    exact hblank
  · intro x y hx hy
    exact hscroll.dirty x y (hsize ▸ hx) (hsize ▸ hy)

theorem Sound.filledBottom_put {r : Screen} (hs : s.Sound) {init : List UInt8} {last : UInt8}
    (hlast : Decoder.isPrintable last = true) (hlength : init.length + 1 = s.size.cols)
    (hcursor : s.cursor = ⟨s.size.lines - 1, 0⟩) (hroll : s.roll = true) (hr : r.Sound)
    (hwrote : s.Wrote r init) : s.FilledBottom (r.put last) (init ++ [last]) := by
  have hlines := s.size.one_lt_lines
  obtain ⟨⟨cells, dirty, hframe⟩, hcell⟩ := hwrote
  have hsize : r.size = s.size := by rw [hframe]
  have hedge : r.cursor = ⟨s.size.lines - 1, s.size.cols - 1⟩ := by
    have hcol : 0 + init.length = s.size.cols - 1 := by omega
    rw [hframe, hcursor, ← hcol]
  have hcol : r.cursor.col + 1 = r.size.cols := by
    rw [hedge, ← hsize]
    exact Nat.sub_add_cancel r.size.cols_pos
  rw [put_of_eq last hcol]
  have hw : (r.write r.cursor.col r.cursor.row ⟨last, r.attributes⟩).Sound :=
    (Change.write _ _ _ hlast).sound hr
  refine hw.filledBottom_newLine hsize ?_ ?_ ?_ ?_ ?_
  · change r.history = s.history
    rw [hframe]
  · change r.cursor.row + 1 = r.size.lines
    rw [hedge, ← hsize]
    exact Nat.sub_add_cancel r.size.lines_pos
  · change r.roll = true
    rw [hframe]
    exact hroll
  · rw [rowText?_write _ (by rw [hedge]; dsimp only; omega)]
    refine hs.wellFormed.rowText?_congr hr.wellFormed hsize s.size.lines_pos ?_
    intro x
    rw [hcell, hcursor, if_neg (by dsimp only; omega)]
  · intro x hx
    rw [hr.wellFormed.cell?_write, hcell, hedge, hcursor]
    dsimp only
    by_cases hend : x = s.size.cols - 1
    · have hindex : x = init.length := by omega
      rw [if_pos ⟨hend, rfl⟩, hindex, List.getElem?_concat_length]
      rfl
    · have hindex : x < init.length := by omega
      rw [if_neg (fun h => hend h.1), if_pos ⟨rfl, Nat.zero_le x, by omega⟩, Nat.sub_zero,
        List.getElem?_append_left hindex, List.getElem?_eq_getElem hindex]
      rfl

theorem Sound.filledBottom (hs : s.Sound) (hcursor : s.cursor = ⟨s.size.lines - 1, 0⟩)
    (hroll : s.roll = true) {text : List UInt8}
    (htext : ∀ code ∈ text, Decoder.isPrintable code = true)
    (hlength : text.length = s.size.cols) : s.FilledBottom (text.foldl put s) text := by
  have hcols := s.size.cols_pos
  have hcol : s.cursor.col = 0 := by rw [hcursor]
  obtain ⟨init, last, rfl⟩ : ∃ init last, text = init ++ [last] := by
    refine ⟨text.dropLast, text.getLast ?_, (List.dropLast_append_getLast _).symm⟩
    rintro rfl
    rw [List.length_nil] at hlength
    omega
  rw [List.length_append, List.length_singleton] at hlength
  have hinit : ∀ code ∈ init, Decoder.isPrintable code = true :=
    fun code hc => htext code (List.mem_append_left _ hc)
  have hr : (init.foldl put s).Sound :=
    (hs.wellFormed.changes_text hinit).transitions.sound hs
  rw [List.foldl_append, List.foldl_cons, List.foldl_nil]
  exact hs.filledBottom_put (htext last (by simp)) hlength hcursor hroll hr
    (hs.wellFormed.wrote hinit (by omega))

theorem FilledBottom.rowText? {v u : Screen} {line text : List UInt8} (h : s.FilledBottom v line)
    (hv : v.WellFormed) (hu : u.WellFormed) (hlength : line.length = s.size.cols)
    (hwrote : v.Wrote u text) (hfits : text.length ≤ s.size.cols) :
    u.rowText? (s.size.lines - 2) = some (String.ofList (line.map charOfCode)) ∧
      u.rowText? (s.size.lines - 1) = some (Wrapping.line s.size.cols text) := by
  have hlines := s.size.one_lt_lines
  have hvsize := h.size
  have husize : u.size = v.size := by
    obtain ⟨⟨cells, dirty, hframe⟩, _⟩ := hwrote
    rw [hframe]
  constructor
  · have habove : v.rowText? (s.size.lines - 2) = some (String.ofList (line.map charOfCode)) :=
      hv.rowText?_eq (by rw [hvsize]; omega) (by rw [hvsize]; exact hlength)
        (by rw [hvsize]; exact h.written)
    rw [← habove]
    refine hv.rowText?_congr hu husize (by rw [hvsize]; omega) ?_
    intro x
    rw [hwrote.cell?, h.cursor, if_neg (by dsimp only; omega)]
  · have hbelow := hv.rowText?_wrote hwrote hu (by rw [h.cursor]) (by rw [hvsize]; exact hfits)
      (by rw [h.cursor, hvsize]; exact h.blanked)
    rw [h.cursor, hvsize] at hbelow
    exact hbelow

end DasherTerminal.Screen
