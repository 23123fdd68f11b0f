import DasherTerminal.Proofs.Canvas.Paragraph
import DasherTerminal.View.Dialog

/-!
# Where a dialog puts the cursor

A dialog compares the column of its cursor with the edge, but not the row, and
the device counts columns in 16 bits. So the cursor is where the text is edited
if the dialog has room for its second line and the text is not longer than
columns are counted.
-/

namespace DasherTerminal

/-! ### Drawing leaves the cursor -/

namespace Canvas

variable {c c' : Canvas}

theorem OnlyGlyphs.write (h : c.OnlyGlyphs c') (x y : Nat) (symbol : List Char) (style : Style) :
    c.OnlyGlyphs (c'.write x y symbol style) :=
  ⟨h.area, h.cursor⟩

theorem OnlyGlyphs.modifyAll (h : c.OnlyGlyphs c') (area : Rect) (f : Glyph → Glyph) :
    c.OnlyGlyphs (c'.modifyAll area f) := by
  refine h.trans (onlyGlyphs_foldl ?_ _ c')
  exact fun _ _ => ⟨rfl, rfl⟩

theorem OnlyGlyphs.paragraph (h : c.OnlyGlyphs c') (area : Rect) (lines : List Line) :
    c.OnlyGlyphs (c'.paragraph area lines) :=
  h.trans (c'.onlyGlyphs_paragraph area lines)

theorem OnlyGlyphs.edges (h : c.OnlyGlyphs c') (area : Rect) (corners : Corners) (style : Style) :
    c.OnlyGlyphs (c'.edges area corners style) := by
  unfold Canvas.edges
  dsimp only
  iterate 4 apply OnlyGlyphs.write
  iterate 4 apply OnlyGlyphs.modifyAll
  exact h

theorem OnlyGlyphs.title (h : c.OnlyGlyphs c') (area : Rect) (place : TitlePlace) (title : Span) :
    c.OnlyGlyphs (c'.title area place title) := by
  have hcentered (room : Rect) : c.OnlyGlyphs (c'.centeredTitle room title) := by
    unfold centeredTitle
    dsimp only
    split
    · exact h.paragraph _ _
    · split <;> exact h.paragraph _ _
  cases place with
  | topLeft => exact h.paragraph _ _
  | topCenter => exact hcentered _
  | bottomCenter => exact hcentered _

theorem OnlyGlyphs.frame (h : c.OnlyGlyphs c') (area : Rect) (corners : Corners)
    (background : Color) (style : Style) (titles : List (TitlePlace × Span)) :
    c.OnlyGlyphs (c'.frame area corners background style titles) := by
  unfold Canvas.frame
  dsimp only
  split
  · exact h
  · refine ((h.modifyAll _ _).edges _ _ _).trans (onlyGlyphs_foldl ?_ titles _)
    exact fun c entry => (OnlyGlyphs.refl c).title _ entry.1 entry.2

end Canvas

namespace View.Dialog

/-- The part of a window that the lines of a dialog are drawn in. -/
def inside (width height : Nat) : Rect := ((Rect.mk 0 0 width height).centered 50 8).inner

/-- The column behind the prompt and the text in front of the field's cursor. -/
def typedColumn (d : Dialog) (x : Nat) : Nat := x + d.prompt.width + d.typedWidth

variable (d : Dialog) (width height : Nat)

theorem cursor_draw :
    (d.draw (.empty width height)).cursor =
      if d.cursorColumn (inside width height).x < (inside width height).right then
        some (d.cursorColumn (inside width height).x, (inside width height).y + 1)
      else none := by
  -- All that is drawn before the cursor is placed leaves the canvas without one.
  obtain ⟨drawn, hdraw, hdrawn⟩ : ∃ drawn : Canvas,
      d.draw (.empty width height) =
        (if d.cursorColumn (inside width height).x < (inside width height).right then
          drawn.showCursor (d.cursorColumn (inside width height).x) ((inside width height).y + 1)
        else drawn) ∧ (Canvas.empty width height).OnlyGlyphs drawn :=
    ⟨_, rfl, (((Canvas.OnlyGlyphs.refl _).modifyAll _ _).frame _ _ _ _ _).paragraph _ _⟩
  rw [hdraw]
  split
  · rfl
  · exact hdrawn.cursor

theorem cursorColumn_eq_typedColumn_iff (x : Nat) :
    d.cursorColumn x = d.typedColumn x ↔ d.typedColumn x < columnLimit := by
  unfold cursorColumn typedColumn columnLimit
  omega

theorem inside_bottom_iff : (inside width height).y + 1 < (inside width height).bottom ↔
    4 ≤ height := by
  simp only [inside, Rect.inner, Rect.centered, Rect.bottom]
  omega

/-- The cursor is put where the text is edited exactly if the frame leaves room for
the line of the text and its columns can be counted, or if it is not put at all. -/
theorem cursor_draw_inside_iff (d : Dialog) (width height : Nat) :
    let inner := inside width height
    let cursor := (d.draw (.empty width height)).cursor
    cursor = (if d.cursorColumn inner.x < inner.right then
      some (d.cursorColumn inner.x, inner.y + 1) else none) ∧
    (d.cursorColumn inner.x = d.typedColumn inner.x ↔ d.typedColumn inner.x < columnLimit) ∧
    ((∀ x y, cursor = some (x, y) →
        (x, y) ∈ inner.positions ∧ y = inner.y + 1 ∧ x = d.typedColumn inner.x) ↔
      inner.right ≤ d.cursorColumn inner.x ∨
        4 ≤ height ∧ d.typedColumn inner.x < columnLimit) := by
  intro inner cursor
  have hcursor : cursor = _ := d.cursor_draw width height
  have hcolumn := d.cursorColumn_eq_typedColumn_iff inner.x
  refine ⟨hcursor, hcolumn, ?_⟩
  rw [hcursor]
  by_cases hplaced : d.cursorColumn inner.x < inner.right
  · rw [if_pos hplaced]
    constructor
    · intro h
      obtain ⟨hinside, -, hbehind⟩ := h _ _ rfl
      have hrow := (Rect.mem_positions.mp hinside).2.2
      exact .inr ⟨(inside_bottom_iff width height).mp hrow, hcolumn.mp hbehind⟩
    · rintro (hedge | ⟨hheight, hcount⟩) x y hxy
      · exact absurd hplaced (Nat.not_lt.mpr hedge)
      · cases hxy
        have hbehind := hcolumn.mpr hcount
        have hleft : inner.x ≤ d.cursorColumn inner.x := by
          rw [hbehind, typedColumn, Nat.add_assoc]
          exact Nat.le_add_right _ _
        have hrow := (inside_bottom_iff width height).mpr hheight
        exact ⟨Rect.mem_positions.mpr ⟨⟨hleft, hplaced⟩, Nat.le_succ _, hrow⟩, rfl, hbehind⟩
  · rw [if_neg hplaced]
    refine iff_of_true (fun x y hxy => ?_) (.inl (Nat.not_lt.mp hplaced))
    cases hxy

/-- In a window of three lines the second line of a dialog is its frame. -/
theorem cursor_draw_on_frame :
    inside 80 3 = ⟨16, 1, 48, 1⟩ ∧
      ((ofText .connect "").draw (.empty 80 3)).cursor = some (24, 2) ∧
      (24, 2) ∉ (inside 80 3).positions := by
  refine ⟨rfl, ?_, by decide⟩
  rw [cursor_draw]
  decide +kernel

end View.Dialog

end DasherTerminal
