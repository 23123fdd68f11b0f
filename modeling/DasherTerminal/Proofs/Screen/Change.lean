import Mathlib.Logic.Relation
import DasherTerminal.Protocol.Decoder
import DasherTerminal.Proofs.Screen.Grid

/-!
# What can happen to a screen

Whatever a host sends, the screen undergoes a finite sequence of eight kinds of
change. The user adds three kinds of transition. A property of screens that each
of them keeps is kept by everything a session does.
-/

namespace DasherTerminal.Screen

/-- One change that a host can make. -/
inductive Change (s : Screen) : Screen → Prop
  | cursor (c : Cursor) (row_lt : c.row < s.size.lines) (col_lt : c.col < s.size.cols) :
      Change s { s with cursor := c }
  | attributes (f : Attributes → Attributes) : Change s (s.mapAttributes f)
  | roll (on : Bool) : Change s (s.setRoll on)
  | blinkEnabled (on : Bool) : Change s (s.setBlinkEnabled on)
  | write (x y : Nat) (cell : Cell) (shown : Decoder.isPrintable cell.code = true) :
      Change s (s.write x y cell)
  | eraseToRight : Change s s.eraseToRight
  | erasePage : Change s s.erasePage
  | scroll : Change s s.scroll

abbrev Changes : Screen → Screen → Prop := Relation.ReflTransGen Change

theorem Change.changes {s t : Screen} (h : Change s t) : s.Changes t :=
  Relation.ReflTransGen.single h

/-- One change by the host or by the user. -/
inductive Transition (s : Screen) : Screen → Prop
  | host {t : Screen} (h : Change s t) : Transition s t
  | resize (size : ScreenSize) : Transition s (s.resize size)
  | setModel (model : Model) : Transition s (s.setModel model)
  | toggleBlinkPhase : Transition s s.toggleBlinkPhase

abbrev Transitions : Screen → Screen → Prop := Relation.ReflTransGen Transition

theorem Changes.transitions {s t : Screen} (h : s.Changes t) : s.Transitions t :=
  Relation.ReflTransGen.mono (fun _ _ => Transition.host) s t h

/-! ### What no change touches -/

theorem Change.size_eq {s t : Screen} (h : Change s t) : t.size = s.size := by
  cases h with
  | blinkEnabled on =>
      simp only [setBlinkEnabled]
      split <;> rfl
  | _ => rfl

theorem Changes.size_eq {s t : Screen} (h : s.Changes t) : t.size = s.size := by
  induction h with
  | refl => rfl
  | tail _ step ih => exact step.size_eq.trans ih

theorem Change.model_eq {s t : Screen} (h : Change s t) : t.model = s.model := by
  cases h with
  | blinkEnabled on =>
      simp only [setBlinkEnabled]
      split <;> rfl
  | _ => rfl

theorem Changes.model_eq {s t : Screen} (h : s.Changes t) : t.model = s.model := by
  induction h with
  | refl => rfl
  | tail _ step ih => exact step.model_eq.trans ih

theorem Change.blinkPhase_eq {s t : Screen} (h : Change s t) : t.blinkPhase = s.blinkPhase := by
  cases h with
  | blinkEnabled on =>
      simp only [setBlinkEnabled]
      split <;> rfl
  | _ => rfl

theorem Changes.blinkPhase_eq {s t : Screen} (h : s.Changes t) : t.blinkPhase = s.blinkPhase := by
  induction h with
  | refl => rfl
  | tail _ step ih => exact step.blinkPhase_eq.trans ih

/-! ### Well-formedness -/

theorem WellFormed.markBlinkingDirty {s : Screen} (hs : s.WellFormed) :
    s.markBlinkingDirty.WellFormed :=
  ⟨hs.cells_shape, hs.cells_shape.zipWith hs.dirty_shape _, hs.row_lt, hs.col_lt⟩

theorem WellFormed.setBlinkEnabled {s : Screen} (hs : s.WellFormed) (on : Bool) :
    (s.setBlinkEnabled on).WellFormed := by
  unfold Screen.setBlinkEnabled
  split
  · exact hs
  · have hon : ({ s with blinkEnabled := on } : Screen).WellFormed :=
      ⟨hs.cells_shape, hs.dirty_shape, hs.row_lt, hs.col_lt⟩
    exact hon.markBlinkingDirty

theorem WellFormed.toggleBlinkPhase {s : Screen} (hs : s.WellFormed) :
    s.toggleBlinkPhase.WellFormed := by
  have hphase : ({ s with blinkPhase := !s.blinkPhase } : Screen).WellFormed :=
    ⟨hs.cells_shape, hs.dirty_shape, hs.row_lt, hs.col_lt⟩
  exact hphase.markBlinkingDirty

theorem wellFormed_resize (s : Screen) (size : ScreenSize) : (s.resize size).WellFormed :=
  ⟨Grid.hasShape_replicate .., Grid.hasShape_replicate .., size.lines_pos, size.cols_pos⟩

theorem Change.wellFormed {s t : Screen} (h : Change s t) (hs : s.WellFormed) :
    t.WellFormed := by
  obtain ⟨hcells, hdirty, hrow, hcol⟩ := hs
  cases h with
  | cursor c row_lt col_lt => exact ⟨hcells, hdirty, row_lt, col_lt⟩
  | attributes f => exact ⟨hcells, hdirty, hrow, hcol⟩
  | roll on => exact ⟨hcells, hdirty, hrow, hcol⟩
  | blinkEnabled on => exact WellFormed.setBlinkEnabled ⟨hcells, hdirty, hrow, hcol⟩ on
  | write x y cell _ => exact ⟨hcells.set .., hdirty.set .., hrow, hcol⟩
  | eraseToRight => exact ⟨hcells.fillRight .., hdirty.fillRight .., hrow, hcol⟩
  | erasePage => exact wellFormed_resize s s.size
  | scroll => exact ⟨hcells.shiftUp s.size.lines_pos _, hdirty.map _, hrow, hcol⟩

theorem Transition.wellFormed {s t : Screen} (h : Transition s t) (hs : s.WellFormed) :
    t.WellFormed := by
  cases h with
  | host h => exact h.wellFormed hs
  | resize size => exact wellFormed_resize s size
  | setModel model => exact ⟨hs.cells_shape, hs.dirty_shape, hs.row_lt, hs.col_lt⟩
  | toggleBlinkPhase => exact hs.toggleBlinkPhase

theorem Changes.wellFormed {s t : Screen} (h : s.Changes t) (hs : s.WellFormed) :
    t.WellFormed := by
  induction h with
  | refl => exact hs
  | tail _ step ih => exact step.wellFormed ih

/-! ### The operations as changes -/

variable {s : Screen}

theorem changes_cursor (c : Cursor) (hrow : c.row < s.size.lines) (hcol : c.col < s.size.cols) :
    s.Changes { s with cursor := c } :=
  (Change.cursor c hrow hcol).changes

theorem changes_home : s.Changes s.home :=
  changes_cursor .home s.size.lines_pos s.size.cols_pos

theorem changes_moveTo (x y : Nat) : s.Changes (s.moveTo x y) := by
  have hlines := s.size.lines_pos
  have hcols := s.size.cols_pos
  apply changes_cursor
  · dsimp only
    omega
  · dsimp only
    omega

theorem changes_carriageReturn (hs : s.WellFormed) : s.Changes s.carriageReturn :=
  changes_cursor _ hs.row_lt s.size.cols_pos

theorem changes_left (hs : s.WellFormed) : s.Changes s.left :=
  changes_cursor _ hs.row_lt (Nat.lt_of_le_of_lt (Nat.sub_le ..) hs.col_lt)

theorem changes_right (hs : s.WellFormed) : s.Changes s.right := by
  unfold right
  split
  · next h => exact changes_cursor _ hs.row_lt h
  · exact changes_cursor _ (Nat.mod_lt _ s.size.lines_pos) s.size.cols_pos

theorem changes_up (hs : s.WellFormed) : s.Changes s.up := by
  have hrow := hs.row_lt
  refine changes_cursor _ ?_ hs.col_lt
  dsimp only
  split <;> omega

theorem changes_down (hs : s.WellFormed) : s.Changes s.down :=
  changes_cursor _ (Nat.mod_lt _ s.size.lines_pos) hs.col_lt

theorem changes_newLine (hs : s.WellFormed) : s.Changes s.newLine := by
  unfold newLine
  split
  · next h => exact changes_cursor _ h s.size.cols_pos
  · split
    · have hreturn : s.Changes { s with cursor := ⟨s.cursor.row, 0⟩ } :=
        changes_cursor _ hs.row_lt s.size.cols_pos
      exact hreturn.tail .scroll
    · exact changes_home

theorem changes_advance (hs : s.WellFormed) : s.Changes s.advance := by
  unfold advance
  split
  · next h => exact changes_cursor _ hs.row_lt h
  · exact changes_newLine hs

theorem changes_put (hs : s.WellFormed) {code : UInt8} (hcode : Decoder.isPrintable code = true) :
    s.Changes (s.put code) := by
  have hwrite : Change s (s.write s.cursor.col s.cursor.row ⟨code, s.attributes⟩) :=
    .write _ _ _ hcode
  exact hwrite.changes.trans (changes_advance (hwrite.wellFormed hs))

end DasherTerminal.Screen
