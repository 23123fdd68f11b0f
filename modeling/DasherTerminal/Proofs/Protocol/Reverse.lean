import DasherTerminal.Proofs.Protocol.Effect
import DasherTerminal.Proofs.Screen.Sound

/-!
# Where the attributes of cells come from

A cell has the attributes that the screen had when it was written, or none if it
was blanked. As only commands begin reverse characters, a screen that is sent
none never shows any.
-/

namespace DasherTerminal

namespace Screen

/-- All cells have attributes of a kind. -/
def CellsHave (P : Attributes → Prop) (s : Screen) : Prop :=
  ∀ x y cell, s.cell? x y = some cell → P cell.attributes

variable {P : Attributes → Prop} {s t : Screen}

theorem CellsHave.of_cells_eq (h : s.CellsHave P) (hcells : t.cells = s.cells) :
    t.CellsHave P := by
  intro x y cell hcell
  rw [cell?, hcells] at hcell
  exact h x y cell hcell

theorem cellsHave_of_replicate (hplain : P .plain) {width height : Nat}
    (hcells : s.cells = .replicate width height .blank) : s.CellsHave P := by
  intro x y cell hcell
  rw [cell?, hcells, Grid.get?_replicate] at hcell
  split at hcell
  · cases hcell
    exact hplain
  · cases hcell

theorem CellsHave.write (h : s.CellsHave P) {cell : Cell} (hcell : P cell.attributes) (x y : Nat) :
    (s.write x y cell).CellsHave P := by
  intro i j old hold
  rw [cell?, Screen.write, Grid.get?_set] at hold
  split at hold
  · obtain ⟨_, _, rfl⟩ := Option.map_eq_some_iff.mp hold
    exact hcell
  · exact h i j old hold

theorem CellsHave.eraseToRight (hplain : P .plain) (h : s.CellsHave P) :
    s.eraseToRight.CellsHave P := by
  intro i j old hold
  rw [cell?, Screen.eraseToRight, Grid.get?_fillRight] at hold
  split at hold
  · obtain ⟨_, _, rfl⟩ := Option.map_eq_some_iff.mp hold
    exact hplain
  · exact h i j old hold

theorem CellsHave.scroll (hplain : P .plain) (hs : s.WellFormed) (h : s.CellsHave P) :
    s.scroll.CellsHave P := by
  intro x y cell hcell
  have hget := Grid.get?_shiftUp (a := Cell.blank) (x := x) (y := y) hs.cells_shape
    s.size.lines_pos
  change (s.cells.shiftUp s.size.cols Cell.blank).get? x y = some cell at hcell
  rw [hget] at hcell
  split at hcell
  · cases hcell
    exact hplain
  · exact h x (y + 1) cell hcell

theorem CellsHave.newLine (hplain : P .plain) (hs : s.WellFormed) (h : s.CellsHave P) :
    s.newLine.CellsHave P := by
  unfold Screen.newLine
  split
  · exact h.of_cells_eq rfl
  · split
    · have hreturn : ({ s with cursor := ⟨s.cursor.row, 0⟩ } : Screen).WellFormed :=
        ⟨hs.cells_shape, hs.dirty_shape, hs.row_lt, s.size.cols_pos⟩
      exact CellsHave.scroll hplain hreturn (h.of_cells_eq rfl)
    · exact h.of_cells_eq rfl

theorem CellsHave.put (hplain : P .plain) (hs : s.WellFormed) (h : s.CellsHave P)
    (hnext : P s.attributes) (code : UInt8) : (s.put code).CellsHave P := by
  have hwritten : (s.write s.cursor.col s.cursor.row ⟨code, s.attributes⟩).CellsHave P :=
    h.write hnext _ _
  unfold Screen.put advance
  split
  · exact hwritten.of_cells_eq rfl
  · exact hwritten.newLine hplain
      ⟨hs.cells_shape.set .., hs.dirty_shape.set .., hs.row_lt, hs.col_lt⟩

end Screen

namespace Token

variable {s : Screen}

/-- What is written has the attributes of the screen, and what is blanked has none. -/
theorem cellsHave_effect {P : Attributes → Prop} (hplain : P .plain) (hs : s.WellFormed)
    (h : s.CellsHave P) (hnext : P s.attributes) (policy : AttributeOffPolicy) (t : Token) :
    (t.effect policy s).CellsHave P := by
  cases t with
  | code byte =>
      rw [effect]
      unfold Decoder.effect
      split
      case h_1 | h_2 => exact h.of_cells_eq (Screen.cells_setBlinkEnabled _)
      case h_4 => exact h.newLine hplain hs
      case h_5 => exact h.eraseToRight hplain
      case h_6 => exact Screen.cellsHave_of_replicate hplain rfl
      case h_15 =>
        unfold Screen.right
        split <;> exact h.of_cells_eq rfl
      case h_20 =>
        split
        · exact h.put hplain hs hnext byte
        · exact h
      all_goals exact h.of_cells_eq rfl
  | address col row =>
      simp only [effect]
      split <;> exact h.of_cells_eq rfl
  | command byte =>
      simp only [effect]
      split
      · exact h.of_cells_eq rfl
      · split <;> exact h.of_cells_eq rfl

/-- Only commands begin reverse characters. -/
theorem reverse_pen (policy : AttributeOffPolicy) {t : Token} (ht : ∀ byte, t ≠ command byte)
    {p : Pen} (hp : p.attributes.reverse = false) :
    (t.pen policy p).attributes.reverse = false := by
  unfold pen
  split
  case h_1 => rfl
  case h_7 | h_9 =>
    cases policy with
    | resetAll => rfl
    | specific => exact hp
  case h_10 byte => exact absurd rfl (ht byte)
  all_goals exact hp

theorem unreversed_foldl (policy : AttributeOffPolicy) {tokens : List Token}
    (htokens : ∀ byte, command byte ∉ tokens) (hs : s.WellFormed)
    (hcells : s.CellsHave (·.reverse = false)) (hnext : s.attributes.reverse = false) :
    (tokens.foldl (fun s t => t.effect policy s) s).CellsHave (·.reverse = false) := by
  induction tokens generalizing s with
  | nil => exact hcells
  | cons t tokens ih =>
      have ht : ∀ byte, t ≠ command byte := by
        rintro byte rfl
        exact htokens byte List.mem_cons_self
      have hpen := congrArg Pen.attributes (pen_effect policy t s)
      refine ih (fun byte hmem => htokens byte (List.mem_cons_of_mem t hmem))
        ((changes_effect hs policy t).wellFormed hs)
        (cellsHave_effect (P := (·.reverse = false)) rfl hs hcells hnext policy t) ?_
      have hafter : (t.effect policy s).attributes = (t.pen policy s.pen).attributes := hpen
      rw [hafter]
      exact reverse_pen policy ht hnext

end Token

end DasherTerminal
