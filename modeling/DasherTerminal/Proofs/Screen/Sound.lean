import DasherTerminal.Proofs.Screen.Change
import DasherTerminal.Screen.Snapshot

/-!
# Sound screens

A sound screen is well formed, shows printable codes only and keeps no more
history than it may. Hosts, users and renderers all keep a screen sound.
-/

namespace DasherTerminal.Screen

/-- The invariant of screens. -/
structure Sound (s : Screen) : Prop where
  wellFormed : s.WellFormed
  shown : ∀ x y cell, s.cell? x y = some cell → Decoder.isPrintable cell.code = true
  history_fits : s.history.lines.size ≤ s.history.capacity

variable {s t : Screen}

/-- Soundness depends on neither the attributes, the modes nor the dirty flags. -/
theorem Sound.of_cells_eq (hs : s.Sound) (ht : t.WellFormed) (hcells : t.cells = s.cells)
    (hhistory : t.history = s.history) : t.Sound := by
  refine ⟨ht, ?_, ?_⟩
  · intro x y cell hcell
    rw [cell?, hcells] at hcell
    exact hs.shown x y cell hcell
  · rw [hhistory]
    exact hs.history_fits

theorem shown_of_replicate {width height x y : Nat} {cell : Cell}
    (h : (Grid.replicate width height Cell.blank).get? x y = some cell) :
    Decoder.isPrintable cell.code = true := by
  rw [Grid.get?_replicate] at h
  split at h
  · cases h
    rfl
  · simp at h

theorem sound_empty (size : ScreenSize) (model : Model) (capacity : Nat) :
    (empty size model (.empty capacity)).Sound :=
  ⟨wellFormed_empty .., fun _ _ _ h => shown_of_replicate h, Nat.zero_le _⟩

theorem Sound.resize (hs : s.Sound) (size : ScreenSize) : (s.resize size).Sound :=
  ⟨wellFormed_resize s size, fun _ _ _ h => shown_of_replicate h, hs.history_fits⟩

theorem cells_setBlinkEnabled (on : Bool) : (s.setBlinkEnabled on).cells = s.cells := by
  unfold setBlinkEnabled
  split <;> rfl

theorem history_setBlinkEnabled (on : Bool) : (s.setBlinkEnabled on).history = s.history := by
  unfold setBlinkEnabled
  split <;> rfl

theorem Sound.setBlinkEnabled (hs : s.Sound) (on : Bool) : (s.setBlinkEnabled on).Sound :=
  hs.of_cells_eq (hs.wellFormed.setBlinkEnabled on) (cells_setBlinkEnabled on)
    (history_setBlinkEnabled on)

theorem Sound.scroll (hs : s.Sound) : s.scroll.Sound := by
  refine ⟨Change.scroll.wellFormed hs.wellFormed, ?_, ?_⟩
  · intro x y cell hcell
    have hget := Grid.get?_shiftUp (a := Cell.blank) (x := x) (y := y) hs.wellFormed.cells_shape
      s.size.lines_pos
    change (s.cells.shiftUp s.size.cols Cell.blank).get? x y = some cell at hcell
    rw [hget] at hcell
    split at hcell
    · cases hcell
      rfl
    · exact hs.shown x (y + 1) cell hcell
  · unfold Screen.scroll
    dsimp only
    split
    · exact History.size_push_le hs.history_fits _
    · exact hs.history_fits

theorem Change.sound (h : Change s t) (hs : s.Sound) : t.Sound := by
  have ht := h.wellFormed hs.wellFormed
  cases h with
  | cursor c _ _ => exact hs.of_cells_eq ht rfl rfl
  | attributes f => exact hs.of_cells_eq ht rfl rfl
  | roll on => exact hs.of_cells_eq ht rfl rfl
  | blinkEnabled on => exact hs.setBlinkEnabled on
  | write x y cell shown =>
      refine ⟨ht, ?_, hs.history_fits⟩
      intro i j old hold
      rw [cell?, Screen.write, Grid.get?_set] at hold
      split at hold
      · obtain ⟨_, _, rfl⟩ := Option.map_eq_some_iff.mp hold
        exact shown
      · exact hs.shown i j old hold
  | eraseToRight =>
      refine ⟨ht, ?_, hs.history_fits⟩
      intro i j old hold
      rw [cell?, Screen.eraseToRight, Grid.get?_fillRight] at hold
      split at hold
      · obtain ⟨_, _, rfl⟩ := Option.map_eq_some_iff.mp hold
        rfl
      · exact hs.shown i j old hold
  | erasePage => exact hs.resize s.size
  | scroll => exact hs.scroll

theorem Transition.sound (h : Transition s t) (hs : s.Sound) : t.Sound := by
  have ht := h.wellFormed hs.wellFormed
  cases h with
  | host h => exact h.sound hs
  | resize size => exact hs.resize size
  | setModel model => exact hs.of_cells_eq ht rfl rfl
  | toggleBlinkPhase => exact hs.of_cells_eq ht rfl rfl

theorem Transitions.sound (h : s.Transitions t) (hs : s.Sound) : t.Sound := by
  induction h with
  | refl => exact hs
  | tail _ step ih => exact step.sound ih

/-! ### Renderers -/

theorem hasShape_clearDirty {dirty : Grid Bool} {width height : Nat}
    (h : dirty.HasShape width height) (views : List CellView) :
    (views.foldl (fun d v => if v.dirty then d.set v.x v.y false else d) dirty).HasShape
      width height := by
  induction views generalizing dirty with
  | nil => exact h
  | cons v views ih =>
      rw [List.foldl_cons]
      split
      · exact ih (h.set ..)
      · exact ih h

theorem WellFormed.clearDirty (hs : s.WellFormed) (views : List CellView) :
    (s.clearDirty views).WellFormed :=
  ⟨hs.cells_shape, hasShape_clearDirty hs.dirty_shape views, hs.row_lt, hs.col_lt⟩

theorem WellFormed.markAllDirty (hs : s.WellFormed) : s.markAllDirty.WellFormed :=
  ⟨hs.cells_shape, hs.dirty_shape.map _, hs.row_lt, hs.col_lt⟩

theorem Sound.clearDirty (hs : s.Sound) (views : List CellView) : (s.clearDirty views).Sound :=
  hs.of_cells_eq (hs.wellFormed.clearDirty views) rfl rfl

theorem Sound.markAllDirty (hs : s.Sound) : s.markAllDirty.Sound :=
  hs.of_cells_eq hs.wellFormed.markAllDirty rfl rfl

end DasherTerminal.Screen
