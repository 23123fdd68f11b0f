import DasherTerminal.Proofs.Canvas.Paragraph
import DasherTerminal.Proofs.Terminal.Monitor
import DasherTerminal.Proofs.Text.Plain
import DasherTerminal.Proofs.View.Spans

/-!
# Cells on the canvas

A drawn row holds its cells in order, each in its own look, but 0x7F is a control
character and is not drawn, so that whatever is to its right in the row moves one
column to the left. A row that shows no 0x7F is drawn column by column.
-/

namespace DasherTerminal

namespace View

variable {hides : Bool} {cell : Cell} {cells : List Cell}

/-! ### Rows as spans -/

def drawnChars (line : Line) : List (List Char × Style) :=
  ((expand line).filter fun p => !Text.isControl p.1).map fun p => ([p.1], p.2)

/-- A line in which every character is plain. -/
def IsPlain (line : Line) : Prop := ∀ p ∈ expand line, Text.IsPlain p.1

theorem IsPlain.clusters {line : Line} (h : IsPlain line) : line.clusters = drawnChars line := by
  induction line with
  | nil => rfl
  | cons s line ih =>
    have hspan : ∀ c ∈ s.text, Text.IsPlain c := by
      intro c hc
      apply h (c, s.style)
      simp [expand, hc]
    have hrest : IsPlain line := by
      intro p hp
      apply h p
      rw [expand, List.flatMap_cons]
      exact List.mem_append_right _ hp
    have hcons : Line.clusters (s :: line) =
        (Text.drawnClusters s.text).map (·, s.style) ++ Line.clusters line := rfl
    rw [hcons, ih hrest, Text.drawnClusters_of_isPlain hspan]
    simp [drawnChars, expand, List.filter_map, Function.comp_def]

theorem IsPlain.clusterWidth {line : Line} (h : IsPlain line) {cluster : List Char × Style}
    (hcluster : cluster ∈ drawnChars line) : Text.clusterWidth cluster.1 = 1 := by
  obtain ⟨p, hp, rfl⟩ := List.mem_map.mp hcluster
  exact (h p (List.mem_filter.mp hp).1).clusterWidth

theorem clusterWidth_le_of_cluster? {lines : List Line} (h : ∀ line ∈ lines, IsPlain line)
    {area : Rect} {i j : Nat} {cluster : List Char × Style}
    (hcluster : Canvas.cluster? area lines i j = some cluster) :
    Text.clusterWidth cluster.1 ≤ 1 := by
  obtain ⟨-, hcluster⟩ := Option.ite_none_right_eq_some.mp hcluster
  obtain ⟨line, hline, hcluster⟩ := Option.bind_eq_some_iff.mp hcluster
  have hplain := h line (List.mem_of_getElem? hline)
  rw [hplain.clusters] at hcluster
  have hwidth : ∀ cluster ∈ drawnChars line, Text.clusterWidth cluster.1 = 1 :=
    fun _ hmem => hplain.clusterWidth hmem
  rw [Line.lookup_place_of_narrow hwidth] at hcluster
  obtain ⟨-, hcluster⟩ := Option.ite_none_right_eq_some.mp hcluster
  exact Nat.le_of_eq (hwidth cluster (List.mem_of_getElem? hcluster))

theorem cluster?_of_isPlain {lines : List Line} (h : ∀ line ∈ lines, IsPlain line) (area : Rect)
    (i j : Nat) : Canvas.cluster? area lines i j =
      if (area.x ≤ i ∧ i < area.right) ∧ area.y ≤ j ∧ j < area.bottom then
        lines[j - area.y]?.bind fun line => (drawnChars line)[i - area.x]?
      else none := by
  rw [Canvas.cluster?, Rect.right]
  by_cases hrow : area.x ≤ i ∧ area.y ≤ j ∧ j < area.bottom
  · rw [if_pos hrow]
    cases hline : lines[j - area.y]? with
    | none => simp
    | some line =>
      have hplain := h line (List.mem_of_getElem? hline)
      rw [Option.bind_some, Option.bind_some, hplain.clusters,
        Line.lookup_place_of_narrow fun _ hcluster => hplain.clusterWidth hcluster]
      by_cases hi : i < area.x + area.width
      · rw [if_pos (by omega), if_pos ⟨⟨hrow.1, hi⟩, hrow.2⟩, Nat.sub_zero]
      · rw [if_neg (by omega), if_neg fun hnot => hi hnot.1.2]
  · rw [if_neg hrow, if_neg fun hnot => hrow ⟨hnot.1.1, hnot.2⟩]

/-! ### Cells -/

/-- The cell shows 0x7F, a character that is not drawn. -/
def showsDelete (hides : Bool) (cell : Cell) : Bool := visibleChar hides cell == '\x7f'

/-- A cell drawn over a glyph. -/
def cellGlyph (hides : Bool) (cell : Cell) (under : Glyph) : Glyph where
  symbol := [visibleChar hides cell]
  fg := if cell.attributes.reverse then .black else phosphor
  bg := if cell.attributes.reverse then phosphor else .reset
  modifiers := under.modifiers.union ⟨false, cell.attributes.dim, cell.attributes.underscore⟩

theorem write_visibleChar (hides : Bool) (cell : Cell) (under : Glyph) :
    under.write [visibleChar hides cell] (cellStyle cell) = cellGlyph hides cell under := by
  obtain ⟨code, blink, reverse, dim, underscore⟩ := cell
  cases reverse <;> cases dim <;> cases underscore <;> rfl

theorem isPlain_visibleChar (hides : Bool) (h : Decoder.isPrintable cell.code = true) :
    Text.IsPlain (visibleChar hides cell) := by
  have hcode : 0x20 ≤ cell.code.toNat ∧ cell.code.toNat ≤ 0x7F := by
    simpa [Decoder.isPrintable, UInt8.le_iff_toNat_le] using h
  unfold visibleChar
  split
  · decide
  · have hchar : (charOfCode cell.code).toNat = cell.code.toNat := by
      rw [charOfCode, Char.ofNat, dif_pos (.inl (by omega))]
      rfl
    rw [Text.IsPlain, hchar]
    exact hcode

theorem isControl_visibleChar (hides : Bool) (h : Decoder.isPrintable cell.code = true) :
    Text.isControl (visibleChar hides cell) = showsDelete hides cell := by
  obtain ⟨hlow, hhigh⟩ := isPlain_visibleChar hides h
  rw [showsDelete, Text.isControl, Bool.eq_iff_iff, beq_iff_eq, ← Char.toNat_inj]
  have hdelete : '\x7f'.toNat = 127 := rfl
  simp only [Bool.or_eq_true, Bool.and_eq_true, decide_eq_true_eq]
  omega

/-! ### Rows of the copy -/

/-- The cells that are drawn into row `y` of an area, from the left. -/
def drawnCells (m : Replica) (area : Rect) (y : Nat) : List Cell :=
  if y < area.height then
    (((m.cells.rows[y]?.map Array.toList).getD []).take area.width).filter
      fun cell => !showsDelete m.hidesBlinking cell
  else []

variable {m : Replica} {area : Rect} {c : Canvas}

theorem getElem?_crtLines (m : Replica) (area : Rect) (y : Nat) :
    (crtLines m area)[y]? = if y < area.height then
      m.cells.rows[y]?.map fun row => rowSpans m.hidesBlinking (row.toList.take area.width)
      else none := by
  rw [crtLines, List.getElem?_map, List.getElem?_take, Array.getElem?_toList]
  split <;> rfl

/-- The cells of the copy are of codes that hosts can write. -/
def HasPrintableCells (m : Replica) : Prop :=
  ∀ x y cell, m.cell? x y = some cell → Decoder.isPrintable cell.code = true

theorem HasPrintableCells.of_mem (hm : HasPrintableCells m) {row : Array Cell} {y : Nat}
    (hrow : m.cells.rows[y]? = some row) {cell : Cell} (hcell : cell ∈ row) :
    Decoder.isPrintable cell.code = true := by
  obtain ⟨x, hx⟩ := Array.getElem?_of_mem hcell
  refine hm x y cell ?_
  rw [Replica.cell?, Grid.get?, hrow, Option.bind_some, hx]

theorem HasPrintableCells.isPlain (hm : HasPrintableCells m) :
    ∀ line ∈ crtLines m area, IsPlain line := by
  intro line hline p hp
  obtain ⟨y, hy⟩ := List.getElem?_of_mem hline
  rw [getElem?_crtLines] at hy
  obtain ⟨-, hy⟩ := Option.ite_none_right_eq_some.mp hy
  obtain ⟨row, hrow, rfl⟩ := Option.map_eq_some_iff.mp hy
  rw [expand_rowSpans] at hp
  obtain ⟨cell, hcell, rfl⟩ := List.mem_map.mp hp
  exact isPlain_visibleChar _
    (hm.of_mem hrow (Array.mem_toList_iff.mp (List.mem_of_mem_take hcell)))

theorem HasPrintableCells.cluster?_crtLines (hm : HasPrintableCells m) (hc : c.Framed) {x y : Nat}
    (hx : area.x + x < c.area.width) (hy : area.y + y < c.area.height) :
    Canvas.cluster? (area.inter c.area) (crtLines m area) (area.x + x) (area.y + y) =
      (drawnCells m area y)[x]?.map fun cell =>
        ([visibleChar m.hidesBlinking cell], cellStyle cell) := by
  rw [cluster?_of_isPlain hm.isPlain, hc.inter_eq]
  simp only [Rect.right, Rect.bottom]
  rw [Nat.add_sub_cancel_left, Nat.add_sub_cancel_left, getElem?_crtLines, drawnCells]
  by_cases hheight : y < area.height
  · rw [if_pos hheight, if_pos hheight]
    cases hrow : m.cells.rows[y]? with
    | none => simp
    | some row =>
      have hdrawn : drawnChars (rowSpans m.hidesBlinking (row.toList.take area.width)) =
          ((row.toList.take area.width).filter fun cell =>
            !showsDelete m.hidesBlinking cell).map fun cell =>
              ([visibleChar m.hidesBlinking cell], cellStyle cell) := by
        rw [drawnChars, expand_rowSpans, List.filter_map, List.map_map]
        congr 1
        apply List.filter_congr
        intro cell hcell
        -- Of the printable codes only 0x7F is a control character.
        rw [Function.comp_apply, isControl_visibleChar _
          (hm.of_mem hrow (Array.mem_toList_iff.mp (List.mem_of_mem_take hcell)))]
      simp only [Option.map_some, Option.bind_some, Option.getD_some, hdrawn, List.getElem?_map]
      by_cases hwidth : x < area.width
      · rw [if_pos (by omega)]
      · have hlength := List.length_filter_le
          (fun cell => !showsDelete m.hidesBlinking cell) (row.toList.take area.width)
        rw [List.length_take] at hlength
        rw [if_neg (by omega), List.getElem?_eq_none (by omega)]
        rfl
  · rw [if_neg hheight, if_neg hheight]
    simp

/-! ### Columns of cells -/

/-- How many cells to the left of a position show 0x7F. -/
def deletesBefore (s : Screen) (x y : Nat) : Nat :=
  (List.range x).countP fun x' => (s.cell? x' y).any (showsDelete s.hidesBlinking)

theorem sub_deletesBefore_eq_iff (s : Screen) (x y : Nat) :
    x - deletesBefore s x y = x ↔
      ∀ x' < x, ∀ cell, s.cell? x' y = some cell → showsDelete s.hidesBlinking cell = false := by
  have hle : deletesBefore s x y ≤ x := by
    have h := List.countP_le_length (l := List.range x)
      (p := fun x' => (s.cell? x' y).any (showsDelete s.hidesBlinking))
    rwa [List.length_range] at h
  have hzero : x - deletesBefore s x y = x ↔ deletesBefore s x y = 0 := by omega
  rw [hzero, deletesBefore, List.countP_eq_zero]
  simp only [List.mem_range, Option.any_eq_true, not_exists, not_and, Bool.not_eq_true]

theorem countP_range_getElem? {α : Type} (p : α → Bool) (l : List α) (n : Nat) :
    (List.range n).countP (fun i => l[i]?.any p) = (l.take n).countP p := by
  induction n with
  | zero => rfl
  | succ n ih =>
    rw [List.range_succ, List.countP_append, ih, List.take_add_one, List.countP_append]
    congr 1
    cases hn : l[n]? <;> simp [hn, List.countP_cons]

theorem countP_not_eq {α : Type} (p : α → Bool) (l : List α) :
    l.countP (fun a => !p a) = l.length - l.countP p := by
  have hlength := List.length_eq_countP_add_countP p (l := l)
  simp only [Bool.not_eq_true, Bool.decide_eq_false] at hlength
  omega

theorem getElem?_filter_countP {α : Type} {p : α → Bool} {l : List α} {n : Nat} {a : α}
    (h : l[n]? = some a) (ha : p a = true) : (l.filter p)[(l.take n).countP p]? = some a := by
  induction l generalizing n with
  | nil => cases h
  | cons b l ih =>
    cases n with
    | zero =>
      obtain rfl : b = a := Option.some.inj h
      simp [List.filter_cons_of_pos ha]
    | succ n =>
      have hrest := ih h
      by_cases hb : p b = true
      · simpa [List.filter_cons_of_pos hb, List.countP_cons_of_pos hb] using hrest
      · simpa [List.filter_cons_of_neg hb, List.countP_cons_of_neg hb] using hrest

/-- The copy that a renderer of the screen has. -/
def copyOf (s : Screen) : Replica := ⟨some s.size, s.cells, s.cursor, s.hidesBlinking⟩

variable {s : Screen} {x y : Nat}

theorem deletesBefore_eq {row : Array Cell} (hrow : s.cells.rows[y]? = some row) (x : Nat) :
    deletesBefore s x y = (row.toList.take x).countP (showsDelete s.hidesBlinking) := by
  rw [deletesBefore, ← countP_range_getElem?]
  congr 1
  funext x'
  rw [Screen.cell?, Grid.get?, hrow, Option.bind_some, Array.getElem?_toList]

theorem drawnCells_copyOf {row : Array Cell} (hrow : s.cells.rows[y]? = some row)
    (hy : y < area.height) : drawnCells (copyOf s) area y =
      (row.toList.take area.width).filter fun cell => !showsDelete s.hidesBlinking cell := by
  rw [drawnCells, if_pos hy, copyOf, hrow, Option.map_some, Option.getD_some]

theorem getElem?_drawnCells (hcell : s.cell? x y = some cell) (hx : x < area.width)
    (hy : y < area.height) (hdrawn : showsDelete s.hidesBlinking cell = false) :
    (drawnCells (copyOf s) area y)[x - deletesBefore s x y]? = some cell := by
  obtain ⟨row, hrow, hcell⟩ := Option.bind_eq_some_iff.mp hcell
  rw [← Array.getElem?_toList] at hcell
  obtain ⟨hlength, -⟩ := List.getElem?_eq_some_iff.mp hcell
  have hkept : (row.toList.take area.width)[x]? = some cell := by
    rw [List.getElem?_take_of_lt hx, hcell]
  -- In the filtered row a cell's index is the number of cells kept before it.
  have hindex := getElem?_filter_countP (p := fun cell => !showsDelete s.hidesBlinking cell) hkept
    (by rw [hdrawn]; rfl)
  rw [List.take_take, Nat.min_eq_left (Nat.le_of_lt hx), countP_not_eq, List.length_take,
    Nat.min_eq_left (Nat.le_of_lt hlength)] at hindex
  rw [drawnCells_copyOf hrow hy, deletesBefore_eq hrow, hindex]

theorem drawnCells_eq_none (hs : s.WellFormed)
    (hx : min s.size.cols area.width - deletesBefore s (min s.size.cols area.width) y ≤ x) :
    (drawnCells (copyOf s) area y)[x]? = none := by
  by_cases hy : y < area.height
  · cases hrow : s.cells.rows[y]? with
    | none => simp [drawnCells, copyOf, hrow]
    | some row =>
      have hcols : row.toList.length = s.size.cols :=
        hs.cells_shape.2 row (Array.mem_of_getElem? hrow)
      rw [deletesBefore_eq hrow, Nat.min_comm, ← hcols, ← List.take_eq_take_min] at hx
      rw [drawnCells_copyOf hrow hy, List.getElem?_eq_none]
      rw [← List.countP_eq_length_filter, countP_not_eq, List.length_take]
      exact hx
  · rw [drawnCells, if_neg hy]
    rfl

/-! ### The cursor -/

/-- The cursor stands at a position, on a cell that is drawn. -/
def CursorShowsAt (s : Screen) (x y : Nat) : Prop :=
  s.cursor = ⟨y, x⟩ ∧ ∀ cell, s.cell? x y = some cell → showsDelete s.hidesBlinking cell = false

theorem not_cursorShowsAt {x' y' : Nat} (hcursor : s.cursor = ⟨y', x'⟩) (hx : x ≠ x') :
    ¬CursorShowsAt s x y := by
  rintro ⟨hat, -⟩
  rw [hcursor] at hat
  cases hat
  exact hx rfl

theorem cluster?_char {canvas : Rect} (hx : canvas.x = 0) (hy : canvas.y = 0) {ch : Char}
    (hch : Text.IsPlain ch) (style : Style) (x y i j : Nat) :
    Canvas.cluster? (Rect.inter ⟨x, y, 1, 1⟩ canvas) [[⟨[ch], style⟩]] i j =
      if (i = x ∧ j = y) ∧ (x < canvas.width ∧ y < canvas.height) ∧ Text.isControl ch = false then
        some ([ch], style)
      else none := by
  have hplain : ∀ line ∈ [[(⟨[ch], style⟩ : Span)]], IsPlain line := by
    simp [IsPlain, expand, hch]
  rw [cluster?_of_isPlain hplain]
  simp only [Rect.inter, Rect.right, Rect.bottom, hx, hy, Nat.max_zero, Nat.zero_add]
  by_cases hplace : (i = x ∧ j = y) ∧ (x < canvas.width ∧ y < canvas.height)
  · obtain ⟨⟨rfl, rfl⟩, hwidth, hheight⟩ := hplace
    rw [if_pos (by omega), Nat.sub_self, Nat.sub_self]
    cases hcontrol : Text.isControl ch <;> simp [drawnChars, expand, hcontrol, hwidth, hheight]
  · rw [if_neg (by omega), if_neg fun h => hplace ⟨h.1, h.2.1⟩]

def cursorChar (m : Replica) : Char :=
  (m.cell? m.cursor.col m.cursor.row).elim ' ' (visibleChar m.hidesBlinking)

theorem HasPrintableCells.cursorChar (hm : HasPrintableCells m) :
    Text.IsPlain (View.cursorChar m) := by
  rw [View.cursorChar]
  cases hcell : m.cell? m.cursor.col m.cursor.row with
  | none =>
    show Text.IsPlain ' '
    decide
  | some cell => exact isPlain_visibleChar _ (hm _ _ _ hcell)

theorem HasPrintableCells.isControl_cursorChar (hm : HasPrintableCells m) :
    Text.isControl (View.cursorChar m) = false ↔
      ∀ cell, m.cell? m.cursor.col m.cursor.row = some cell →
        showsDelete m.hidesBlinking cell = false := by
  rw [View.cursorChar]
  cases hcell : m.cell? m.cursor.col m.cursor.row with
  | none => simp [Text.isControl]
  | some cell => simp [isControl_visibleChar _ (hm _ _ _ hcell)]

theorem HasPrintableCells.get?_drawCursor (hm : HasPrintableCells m) (hleft : c.area.x = 0)
    (htop : c.area.y = 0) {x y : Nat} (hx : area.x + x < c.area.width)
    (hy : area.y + y < c.area.height) :
    (drawCursor m area c).get? (area.x + x) (area.y + y) =
      (c.get? (area.x + x) (area.y + y)).map (·.overlay
        (if (x < area.width ∧ y < area.height) ∧ m.cursor = ⟨y, x⟩ ∧
            Text.isControl (View.cursorChar m) = false then
          some ([View.cursorChar m], reverseStyle)
        else none)) := by
  rw [drawCursor]
  by_cases hinside : m.cursor.col < area.width ∧ m.cursor.row < area.height
  · rw [if_pos hinside]
    have hdrawn := c.get?_paragraph ⟨area.x + m.cursor.col, area.y + m.cursor.row, 1, 1⟩
      [[⟨[View.cursorChar m], reverseStyle⟩]] (area.x + x) (area.y + y)
    rw [cluster?_char hleft htop hm.cursorChar] at hdrawn
    refine hdrawn.trans ?_
    have hcursor : m.cursor = ⟨y, x⟩ ↔ x = m.cursor.col ∧ y = m.cursor.row := by
      constructor
      · intro h
        rw [h]
        exact ⟨rfl, rfl⟩
      · rintro ⟨rfl, rfl⟩
        rfl
    have hplace : ((area.x + x = area.x + m.cursor.col ∧ area.y + y = area.y + m.cursor.row) ∧
        area.x + m.cursor.col < c.area.width ∧ area.y + m.cursor.row < c.area.height) ↔
          (x < area.width ∧ y < area.height) ∧ m.cursor = ⟨y, x⟩ := by
      rw [hcursor]
      omega
    congr 3
    simp only [← and_assoc, hplace]
  · rw [if_neg hinside, if_neg]
    · simp
    · rintro ⟨hplace, hcursor, -⟩
      rw [hcursor] at hinside
      exact hinside hplace

/-! ### The tube -/

theorem hasPrintableCells_copyOf (hs : s.Sound) : HasPrintableCells (copyOf s) := hs.shown

theorem cursorShowsAt_iff (hs : s.Sound) : CursorShowsAt s x y ↔
    s.cursor = ⟨y, x⟩ ∧ Text.isControl (cursorChar (copyOf s)) = false := by
  rw [CursorShowsAt, (hasPrintableCells_copyOf hs).isControl_cursorChar]
  constructor
  · rintro ⟨hcursor, hcell⟩
    refine ⟨hcursor, fun cell h => hcell cell ?_⟩
    rwa [copyOf, hcursor] at h
  · rintro ⟨hcursor, hcell⟩
    refine ⟨hcursor, fun cell h => hcell cell ?_⟩
    rwa [copyOf, hcursor]

/-- The rows of a tube without its cursor. -/
theorem get?_paragraph_crtLines (hs : s.Sound) (hc : c.Framed) (hx : area.x + x < c.area.width)
    (hy : area.y + y < c.area.height) :
    (c.paragraph area (crtLines (copyOf s) area)).get? (area.x + x) (area.y + y) =
      (c.get? (area.x + x) (area.y + y)).map fun under =>
        (drawnCells (copyOf s) area y)[x]?.elim under (cellGlyph s.hidesBlinking · under) := by
  rw [Canvas.get?_paragraph, (hasPrintableCells_copyOf hs).cluster?_crtLines hc hx hy]
  congr 1
  funext under
  cases (drawnCells (copyOf s) area y)[x]? with
  | none => rfl
  | some cell => exact write_visibleChar s.hidesBlinking cell under

theorem get?_crt (hs : s.Sound) (hc : c.Framed) (hx : area.x + x < c.area.width)
    (hy : area.y + y < c.area.height) :
    (crt (copyOf s) area c).get? (area.x + x) (area.y + y) =
      ((c.paragraph area (crtLines (copyOf s) area)).get? (area.x + x) (area.y + y)).map (·.overlay
        (if (x < area.width ∧ y < area.height) ∧ s.cursor = ⟨y, x⟩ ∧
            Text.isControl (cursorChar (copyOf s)) = false then
          some ([cursorChar (copyOf s)], reverseStyle)
        else none)) := by
  -- The cursor is drawn on the canvas that the rows left, which has the same area.
  have harea := c.area_paragraph area (crtLines (copyOf s) area)
  rw [← harea] at hx hy
  exact (hasPrintableCells_copyOf hs).get?_drawCursor (harea ▸ hc.x) (harea ▸ hc.y) hx hy

theorem get?_crt_of_not_cursor (hs : s.Sound) (hc : c.Framed) (hx : area.x + x < c.area.width)
    (hy : area.y + y < c.area.height) (hcursor : ¬CursorShowsAt s x y) :
    (crt (copyOf s) area c).get? (area.x + x) (area.y + y) =
      (c.get? (area.x + x) (area.y + y)).map fun under =>
        (drawnCells (copyOf s) area y)[x]?.elim under (cellGlyph s.hidesBlinking · under) := by
  rw [get?_crt hs hc hx hy, if_neg fun h => hcursor ((cursorShowsAt_iff hs).mpr h.2),
    get?_paragraph_crtLines hs hc hx hy]
  simp [Function.comp_def]

theorem get?_crt_of_cursor (hs : s.Sound) (hc : c.Framed) (hx : area.x + x < c.area.width)
    (hy : area.y + y < c.area.height) (hinside : x < area.width ∧ y < area.height)
    (hcursor : CursorShowsAt s x y) :
    ∃ glyph, (crt (copyOf s) area c).get? (area.x + x) (area.y + y) = some glyph ∧
      glyph.symbol = [cursorChar (copyOf s)] ∧ glyph.fg = .black ∧ glyph.bg = phosphor := by
  obtain ⟨under, hunder⟩ := hc.shape.exists_get? hx hy
  rw [get?_crt hs hc hx hy, if_pos ⟨hinside, (cursorShowsAt_iff hs).mp hcursor⟩,
    get?_paragraph_crtLines hs hc hx hy, Canvas.get?, hunder]
  exact ⟨_, rfl, rfl, rfl, rfl⟩

theorem narrow_crt (hs : s.Sound) (hc : c.Narrow) : (crt (copyOf s) area c).Narrow := by
  have hm := hasPrintableCells_copyOf hs
  have hcells : (c.paragraph area (crtLines (copyOf s) area)).Narrow :=
    hc.paragraph fun _ _ _ => clusterWidth_le_of_cluster? hm.isPlain
  have hcursor : ∀ line ∈ [[(⟨[cursorChar (copyOf s)], reverseStyle⟩ : Span)]], IsPlain line := by
    simp [IsPlain, expand, hm.cursorChar]
  show (drawCursor (copyOf s) area _).Narrow
  rw [drawCursor]
  split
  · exact hcells.paragraph fun _ _ _ => clusterWidth_le_of_cluster? hcursor
  · exact hcells

theorem shown?_crt (hs : s.Sound) (hc : c.Narrow) (i j : Nat) :
    (crt (copyOf s) area c).shown? i j = (crt (copyOf s) area c).get? i j :=
  ((narrow_crt hs hc).uncovered i j).shown?_eq

/-- Every cell but a 0x7F is seen, as many columns to the left of its own as there
are 0x7F in front of it. -/
theorem shown?_crt_cell (hs : s.Sound) (hc : c.Framed) (hnarrow : c.Narrow)
    (hx : x < area.width) (hy : y < area.height) (hcell : s.cell? x y = some cell)
    (hdrawn : showsDelete s.hidesBlinking cell = false) {i : Nat}
    (hi : i = x - deletesBefore s x y) {under : Glyph}
    (hunder : c.get? (area.x + i) (area.y + y) = some under) (hcursor : ¬CursorShowsAt s i y) :
    (crt (copyOf s) area c).shown? (area.x + i) (area.y + y) =
      some (cellGlyph s.hidesBlinking cell under) := by
  obtain ⟨hwidth, hheight⟩ := hc.lt_of_get? hunder
  rw [shown?_crt hs hnarrow, get?_crt_of_not_cursor hs hc hwidth hheight hcursor, hunder, hi,
    getElem?_drawnCells hcell hx hy hdrawn]
  rfl

theorem shown?_crt_behind (hs : s.Sound) (hc : c.Framed) (hnarrow : c.Narrow) {cols : Nat}
    (hcols : cols = min s.size.cols area.width) (hx : cols - deletesBefore s cols y ≤ x)
    {under : Glyph} (hunder : c.get? (area.x + x) (area.y + y) = some under)
    (hcursor : ¬CursorShowsAt s x y) :
    (crt (copyOf s) area c).shown? (area.x + x) (area.y + y) = some under := by
  obtain ⟨hwidth, hheight⟩ := hc.lt_of_get? hunder
  subst hcols
  rw [shown?_crt hs hnarrow, get?_crt_of_not_cursor hs hc hwidth hheight hcursor, hunder,
    drawnCells_eq_none hs.wellFormed hx]
  rfl

theorem shown?_crt_cursor (hs : s.Sound) (hc : c.Framed) (hnarrow : c.Narrow)
    (hx : x < area.width) (hy : y < area.height) (hcursor : s.cursor = ⟨y, x⟩)
    (hcell : s.cell? x y = some cell) (hdrawn : showsDelete s.hidesBlinking cell = false)
    {under : Glyph} (hunder : c.get? (area.x + x) (area.y + y) = some under) :
    ∃ glyph, (crt (copyOf s) area c).shown? (area.x + x) (area.y + y) = some glyph ∧
      glyph.symbol = [visibleChar s.hidesBlinking cell] ∧ glyph.fg = .black ∧
        glyph.bg = phosphor := by
  obtain ⟨hwidth, hheight⟩ := hc.lt_of_get? hunder
  have hshows : CursorShowsAt s x y := by
    refine ⟨hcursor, fun cell' hcell' => ?_⟩
    obtain rfl : cell = cell' := Option.some.inj (hcell.symm.trans hcell')
    exact hdrawn
  have hchar : cursorChar (copyOf s) = visibleChar s.hidesBlinking cell := by
    have hcopy : (copyOf s).cell? x y = some cell := hcell
    rw [cursorChar, show (copyOf s).cursor = ⟨y, x⟩ from hcursor, hcopy]
    rfl
  rw [shown?_crt hs hnarrow, ← hchar]
  exact get?_crt_of_cursor hs hc hwidth hheight ⟨hx, hy⟩ hshows

theorem cursor_crt (s : Screen) (c : Canvas) (hx : x < area.width) (hy : y < area.height)
    (hcursor : s.cursor = ⟨y, x⟩) :
    (crt (copyOf s) area c).cursor = some (area.x + x, area.y + y) := by
  show (drawCursor (copyOf s) area _).cursor = _
  rw [drawCursor, show (copyOf s).cursor = ⟨y, x⟩ from hcursor, if_pos ⟨hx, hy⟩]
  rfl

end View

namespace Monitor

open View

theorem Coherent.sync_eq_copyOf {d : Monitor} (h : d.Coherent) :
    (d.replica.sync d.terminal.screen).1 = copyOf d.terminal.screen :=
  (h.tracks.sync h.terminal.screen.wellFormed).1

/-- Whatever happened before, a frame draws the cells of a row in order from the
left edge of its area: each cell but a 0x7F in the look of its attributes, as many
columns to the left of its own as there are 0x7F in front of it, and nothing behind
the last one. A row that shows no 0x7F is drawn column by column. The cursor is
where the screen has it, in reverse, unless its cell shows a 0x7F. -/
theorem crt_of_run (setup : Terminal.Setup) (events : List Event) (area : Rect) (c : Canvas)
    (hc : c.Framed) (hnarrow : c.Narrow) :
    let d := (fresh setup).run events
    let s := d.terminal.screen
    let drawn := crt (d.replica.sync s).1 area c
    let cols := min s.size.cols area.width
    (∀ x y, x - deletesBefore s x y = x ↔
      ∀ x' < x, ∀ cell, s.cell? x' y = some cell → showsDelete s.hidesBlinking cell = false) ∧
    (∀ x y cell under, x < area.width → y < area.height → s.cell? x y = some cell →
      showsDelete s.hidesBlinking cell = false →
      let i := x - deletesBefore s x y
      c.get? (area.x + i) (area.y + y) = some under → ¬CursorShowsAt s i y →
      drawn.shown? (area.x + i) (area.y + y) = some (cellGlyph s.hidesBlinking cell under)) ∧
    (∀ x y under, cols - deletesBefore s cols y ≤ x →
      c.get? (area.x + x) (area.y + y) = some under → ¬CursorShowsAt s x y →
      drawn.shown? (area.x + x) (area.y + y) = some under) ∧
    (∀ x y, x < area.width → y < area.height → s.cursor = ⟨y, x⟩ →
      drawn.cursor = some (area.x + x, area.y + y) ∧
      ∀ cell under, s.cell? x y = some cell → showsDelete s.hidesBlinking cell = false →
        c.get? (area.x + x) (area.y + y) = some under →
        ∃ glyph, drawn.shown? (area.x + x) (area.y + y) = some glyph ∧
          glyph.symbol = [visibleChar s.hidesBlinking cell] ∧ glyph.fg = .black ∧
            glyph.bg = phosphor) := by
  intro d s drawn cols
  have hd : d.Coherent := (coherent_fresh setup).run events
  have hs : s.Sound := hd.terminal.screen
  have hdrawn : drawn = crt (copyOf s) area c := congrArg (crt · area c) hd.sync_eq_copyOf
  rw [hdrawn]
  refine ⟨sub_deletesBefore_eq_iff s, ?_, ?_, ?_⟩
  · intro x y cell under hx hy hcell hshows i hunder hcursor
    exact shown?_crt_cell hs hc hnarrow hx hy hcell hshows rfl hunder hcursor
  · intro x y under hx hunder hcursor
    exact shown?_crt_behind hs hc hnarrow rfl hx hunder hcursor
  · intro x y hx hy hcursor
    refine ⟨cursor_crt s c hx hy hcursor, ?_⟩
    intro cell under hcell hshows hunder
    exact shown?_crt_cursor hs hc hnarrow hx hy hcursor hcell hshows hunder

theorem crt_of_run_a_delete_b :
    let d := (fresh .default).run [.operation (.process [0x41, 0x7F, 0x42])]
    let drawn := crt (d.replica.sync d.terminal.screen).1 ⟨0, 0, 8, 1⟩ (.empty 8 1)
    (Canvas.empty 8 1).Framed ∧ (Canvas.empty 8 1).Narrow ∧
      drawn.shown? 1 0 = some ⟨['B'], phosphor, .reset, .none⟩ ∧ drawn.shown? 7 0 = some .blank ∧
      drawn.cursor = some (3, 0) := by
  intro d drawn
  obtain ⟨-, hcells, hbehind, hcursor⟩ :=
    crt_of_run .default [.operation (.process [0x41, 0x7F, 0x42])] ⟨0, 0, 8, 1⟩ (.empty 8 1)
      (Canvas.framed_empty 8 1) (Canvas.narrow_empty 8 1)
  have hat : d.terminal.screen.cursor = ⟨0, 3⟩ := by decide +kernel
  refine ⟨Canvas.framed_empty 8 1, Canvas.narrow_empty 8 1, ?_, ?_, ?_⟩
  · exact hcells 2 0 ⟨0x42, false, false, false, false⟩ .blank (by decide) (by decide)
      (by decide +kernel) (by decide +kernel) (by decide +kernel)
      (not_cursorShowsAt hat (by decide +kernel))
  · exact hbehind 7 0 .blank (by decide +kernel) (by decide +kernel)
      (not_cursorShowsAt hat (by decide))
  · exact (hcursor 3 0 (by decide) (by decide) hat).1

/-- Behind a 0x7F an A is seen in the column of the 0x7F, and its own is blank. -/
theorem crt_delete_a :
    let d := (fresh .default).run [.operation (.process [0x7F, 0x41])]
    let s := d.terminal.screen
    let drawn := crt (d.replica.sync s).1 ⟨0, 0, 4, 1⟩ (.empty 4 1)
    (s.cell? 0 0).map (·.code) = some 0x7F ∧ (s.cell? 1 0).map (·.code) = some 0x41 ∧
      s.cursor = ⟨0, 2⟩ ∧ drawn.shown? 0 0 = some ⟨['A'], phosphor, .reset, .none⟩ ∧
      drawn.shown? 1 0 = some ⟨[' '], phosphor, .reset, .none⟩ := by
  intro d s drawn
  have hd : d.Coherent := (coherent_fresh _).run _
  have hcursor : s.cursor = ⟨0, 2⟩ := by decide +kernel
  have hframed := Canvas.framed_empty 4 1
  have hnarrow := Canvas.narrow_empty 4 1
  have hdrawn : drawn = crt (copyOf s) ⟨0, 0, 4, 1⟩ (.empty 4 1) :=
    congrArg (crt · _ _) hd.sync_eq_copyOf
  rw [hdrawn]
  have hzero : s.cell? 0 0 = some ⟨0x7F, false, false, false, false⟩ := by decide +kernel
  have hone : s.cell? 1 0 = some ⟨0x41, false, false, false, false⟩ := by decide +kernel
  have htwo : s.cell? 2 0 = some .blank := by decide +kernel
  have hrow : 0 < (⟨0, 0, 4, 1⟩ : Rect).height := by decide
  refine ⟨congrArg _ hzero, congrArg _ hone, hcursor, ?_, ?_⟩
  · have hcolumn : 1 < (⟨0, 0, 4, 1⟩ : Rect).width := by decide
    have hshift : 0 = 1 - deletesBefore s 1 0 := by decide +kernel
    exact shown?_crt_cell hd.terminal.screen hframed hnarrow hcolumn hrow hone rfl hshift rfl
      (not_cursorShowsAt hcursor (by decide))
  · have hcolumn : 2 < (⟨0, 0, 4, 1⟩ : Rect).width := by decide
    have hshift : 1 = 2 - deletesBefore s 2 0 := by decide +kernel
    exact shown?_crt_cell hd.terminal.screen hframed hnarrow hcolumn hrow htwo rfl hshift rfl
      (not_cursorShowsAt hcursor (by decide))

end Monitor

end DasherTerminal
