import DasherTerminal.Proofs.Screen.Replica

/-!
# What snapshots report

A snapshot lists the places with a raised flag, and the blinking ones while they
are hidden, row by row. A renderer that is done lowers the flags that its
snapshot has shown raised and no others, even if the screen has another size by
then.
-/

namespace DasherTerminal

namespace Screen

/-- Whatever can be done to a screen, by hosts, users and renderers. -/
inductive Mutation where
  | write (x y : Nat) (cell : Cell)
  | put (code : UInt8)
  | eraseToRight
  | erasePage
  | moveTo (x y : Nat)
  | advance
  | newLine
  | carriageReturn
  | home
  | left
  | right
  | up
  | down
  | scroll
  | setAttributes (attributes : Attributes)
  | setRoll (on : Bool)
  | setModel (model : Model)
  | setBlinkEnabled (on : Bool)
  | toggleBlinkPhase
  | resize (size : ScreenSize)
  | markAllDirty
  | clearDirty (views : List CellView)
  deriving DecidableEq, Repr

def mutate (s : Screen) : Mutation → Screen
  | .write x y cell => s.write x y cell
  | .put code => s.put code
  | .eraseToRight => s.eraseToRight
  | .erasePage => s.erasePage
  | .moveTo x y => s.moveTo x y
  | .advance => s.advance
  | .newLine => s.newLine
  | .carriageReturn => s.carriageReturn
  | .home => s.home
  | .left => s.left
  | .right => s.right
  | .up => s.up
  | .down => s.down
  | .scroll => s.scroll
  | .setAttributes attributes => s.mapAttributes fun _ => attributes
  | .setRoll on => s.setRoll on
  | .setModel model => s.setModel model
  | .setBlinkEnabled on => s.setBlinkEnabled on
  | .toggleBlinkPhase => s.toggleBlinkPhase
  | .resize size => s.resize size
  | .markAllDirty => s.markAllDirty
  | .clearDirty views => s.clearDirty views

variable {s : Screen}

theorem wellFormed_write (hs : s.WellFormed) (x y : Nat) (cell : Cell) :
    (s.write x y cell).WellFormed :=
  ⟨hs.cells_shape.set .., hs.dirty_shape.set .., hs.row_lt, hs.col_lt⟩

theorem WellFormed.mutate (hs : s.WellFormed) (m : Mutation) : (s.mutate m).WellFormed := by
  cases m with
  | write x y cell => exact wellFormed_write hs x y cell
  | put code =>
      have hwritten := wellFormed_write hs s.cursor.col s.cursor.row ⟨code, s.attributes⟩
      exact (changes_advance hwritten).wellFormed hwritten
  | eraseToRight => exact Change.eraseToRight.wellFormed hs
  | erasePage => exact Change.erasePage.wellFormed hs
  | moveTo x y => exact (changes_moveTo x y).wellFormed hs
  | advance => exact (changes_advance hs).wellFormed hs
  | newLine => exact (changes_newLine hs).wellFormed hs
  | carriageReturn => exact (changes_carriageReturn hs).wellFormed hs
  | home => exact changes_home.wellFormed hs
  | left => exact (changes_left hs).wellFormed hs
  | right => exact (changes_right hs).wellFormed hs
  | up => exact (changes_up hs).wellFormed hs
  | down => exact (changes_down hs).wellFormed hs
  | scroll => exact Change.scroll.wellFormed hs
  | setAttributes attributes => exact (Change.attributes fun _ => attributes).wellFormed hs
  | setRoll on => exact (Change.roll on).wellFormed hs
  | setModel model => exact (Transition.setModel model).wellFormed hs
  | setBlinkEnabled on => exact hs.setBlinkEnabled on
  | toggleBlinkPhase => exact hs.toggleBlinkPhase
  | resize size => exact wellFormed_resize s size
  | markAllDirty => exact hs.markAllDirty
  | clearDirty views => exact hs.clearDirty views

theorem WellFormed.foldl_mutate (hs : s.WellFormed) (mutations : List Mutation) :
    (mutations.foldl Screen.mutate s).WellFormed := by
  induction mutations generalizing s with
  | nil => exact hs
  | cons m mutations ih => exact ih (hs.mutate m)

/-! ### The table of flags -/

/-- The place in the table of flags that belongs to a position of the screen. -/
def flagIndex? (s : Screen) (x y : Nat) : Option Nat :=
  if x < s.size.cols ∧ y < s.size.lines then some (y * s.size.cols + x) else none

def flag? (s : Screen) (x y : Nat) : Option Bool := (s.flagIndex? x y).bind (s.dirty.flat[·]?)

/-- The table with the flags lowered that some views show raised. -/
def lowerFlags (s : Screen) (views : List CellView) : Array Bool :=
  (views.filter (·.dirty)).foldl
    (fun table v => (s.flagIndex? v.x v.y).elim table (table.setIfInBounds · false)) s.dirty.flat

theorem WellFormed.flag?_eq (hs : s.WellFormed) (x y : Nat) : s.flag? x y = s.dirty.get? x y := by
  unfold flag? flagIndex?
  split
  · next hxy => exact hs.dirty_shape.getElem?_flat hxy.1
  · next hxy => exact (hs.dirty_shape.get?_eq_none hxy).symm

theorem flat_setAll {dirty : Grid Bool} (h : dirty.HasShape s.size.cols s.size.lines)
    (places : List (Nat × Nat)) :
    (dirty.setAll places false).flat = places.foldl
      (fun table p => (s.flagIndex? p.1 p.2).elim table (table.setIfInBounds · false))
      dirty.flat := by
  induction places generalizing dirty with
  | nil => rfl
  | cons p places ih =>
      have hstep : (dirty.set p.1 p.2 false).flat =
          (s.flagIndex? p.1 p.2).elim dirty.flat (dirty.flat.setIfInBounds · false) := by
        unfold flagIndex?
        split
        · next hp => exact h.flat_set hp.1 hp.2 false
        · next hp => exact congrArg Grid.flat (h.set_eq_self hp false)
      rw [List.foldl_cons, ← hstep]
      exact ih (h.set p.1 p.2 false)

theorem WellFormed.flat_clearDirty (hs : s.WellFormed) (views : List CellView) :
    (s.clearDirty views).dirty.flat = s.lowerFlags views := by
  rw [clearDirty_eq_setAll, flat_setAll hs.dirty_shape, lowerFlags, List.foldl_map]

theorem WellFormed.flag?_clearDirty (hs : s.WellFormed) (views : List CellView) (x y : Nat) :
    (s.clearDirty views).flag? x y =
      if ∃ v ∈ views, v.dirty = true ∧ v.x = x ∧ v.y = y then (s.flag? x y).map fun _ => false
      else s.flag? x y := by
  rw [(hs.clearDirty views).flag?_eq, hs.flag?_eq, clearDirty_eq_setAll, Grid.get?_setAll]
  have hmem : (x, y) ∈ ((views.filter (·.dirty)).map fun v => (v.x, v.y)) ↔
      ∃ v ∈ views, v.dirty = true ∧ v.x = x ∧ v.y = y := by
    simp [and_assoc]
  simp only [hmem]

/-! ### Snapshots -/

/-- One view after another, from the left and from the top. -/
def IsRowMajor (views : List CellView) : Prop :=
  views.Pairwise fun v w => v.y < w.y ∨ v.y = w.y ∧ v.x < w.x

theorem pairwise_positions (width height : Nat) :
    (Grid.positions width height).Pairwise fun p q => p.2 < q.2 ∨ p.2 = q.2 ∧ p.1 < q.1 := by
  rw [Grid.positions, List.pairwise_flatMap]
  constructor
  · intro y _
    rw [List.pairwise_map]
    exact List.pairwise_lt_range.imp fun hlt => .inr ⟨rfl, hlt⟩
  · apply List.pairwise_lt_range.imp
    intro y y' hlt p hp q hq
    obtain ⟨x, -, rfl⟩ := List.mem_map.mp hp
    obtain ⟨x', -, rfl⟩ := List.mem_map.mp hq
    exact .inl hlt

theorem isRowMajor_snapshot (s : Screen) : IsRowMajor s.snapshot := by
  rw [IsRowMajor, snapshot_eq_filterMap, List.pairwise_filterMap]
  apply (pairwise_positions s.size.cols s.size.lines).imp
  intro p q hpq v hv w hw
  obtain ⟨hx, hy, -⟩ := view?_eq_some hv
  obtain ⟨hx', hy', -⟩ := view?_eq_some hw
  rw [hx, hy, hx', hy']
  exact hpq

theorem view?_eq_some_iff {x y : Nat} {v : CellView} : s.view? x y = some v ↔
    (v.x = x ∧ v.y = y) ∧ s.cell? x y = some v.cell ∧ s.dirty.get? x y = some v.dirty ∧
      (v.dirty = true ∨ s.hidesBlinking = true ∧ v.cell.attributes.blink = true) := by
  constructor
  · intro h
    obtain ⟨hx, hy, hcell, hdirty⟩ := view?_eq_some h
    refine ⟨⟨hx, hy⟩, hcell, hdirty, ?_⟩
    have hget : s.cells.get? x y = some v.cell := hcell
    have hview : (v.dirty = true ∨ s.hidesBlinking = true ∧ v.cell.attributes.blink = true) ∧
        (⟨x, y, v.cell, v.dirty⟩ : CellView) = v := by
      simpa [view?, hget, hdirty] using h
    exact hview.1
  · rintro ⟨⟨rfl, rfl⟩, hcell, hdirty, hseen⟩
    have hget : s.cells.get? v.x v.y = some v.cell := hcell
    simp [view?, hget, hdirty, hseen]

theorem WellFormed.mem_snapshot_iff (hs : s.WellFormed) {v : CellView} : v ∈ s.snapshot ↔
    s.cell? v.x v.y = some v.cell ∧ s.flag? v.x v.y = some v.dirty ∧
      (v.dirty = true ∨ s.hidesBlinking = true ∧ v.cell.attributes.blink = true) := by
  rw [snapshot_eq_filterMap, List.mem_filterMap, hs.flag?_eq]
  constructor
  · rintro ⟨p, -, hv⟩
    obtain ⟨⟨hx, hy⟩, hview⟩ := view?_eq_some_iff.mp hv
    rw [hx, hy]
    exact hview
  · intro hview
    refine ⟨(v.x, v.y), ?_, view?_eq_some_iff.mpr ⟨⟨rfl, rfl⟩, hview⟩⟩
    exact Grid.mem_positions_iff.mpr (hs.cells_shape.lt_of_get? hview.1)

/-- Once a snapshot has been drawn, what is left to draw are the hidden cells. -/
theorem WellFormed.mem_snapshot_clearDirty_iff (hs : s.WellFormed) {v : CellView} :
    v ∈ (s.clearDirty s.snapshot).snapshot ↔
      s.cell? v.x v.y = some v.cell ∧ v.dirty = false ∧ s.hidesBlinking = true ∧
        v.cell.attributes.blink = true := by
  have hcleared : (s.clearDirty s.snapshot).WellFormed := hs.clearDirty _
  have hlow := hs.clearDirty_snapshot v.x v.y
  rw [hcleared.mem_snapshot_iff, hcleared.flag?_eq]
  constructor
  · rintro ⟨hcell, hflag, hseen⟩
    have hclean : v.dirty = false := by
      rw [hflag] at hlow
      simpa using hlow
    rw [hclean] at hseen
    exact ⟨hcell, hclean, hseen.resolve_left Bool.false_ne_true⟩
  · rintro ⟨hcell, hclean, hhidden⟩
    refine ⟨hcell, ?_, .inr hhidden⟩
    have hin : v.x < s.size.cols ∧ v.y < s.size.lines := hs.cells_shape.lt_of_get? hcell
    obtain ⟨flag, hflag⟩ := hcleared.dirty_shape.exists_get? hin.1 hin.2
    rw [hflag] at hlow ⊢
    rw [hclean]
    simpa using hlow

/-- Whatever was done to a screen, its snapshot reports the places with a raised
flag and the hidden ones, row by row. When it has been drawn, only the hidden ones
are left, with their flags down. Lowering the flags of a snapshot after more has
been done lowers those that it shows raised, where such places still exist, and
changes nothing else. -/
theorem report_foldl_mutate (size : ScreenSize) (model : Model) (history : History)
    (before later : List Mutation) :
    let s := before.foldl mutate (empty size model history)
    let drawn := s.clearDirty s.snapshot
    let t := later.foldl mutate s
    let lowered := t.clearDirty s.snapshot
    (IsRowMajor s.snapshot ∧
      ∀ v, v ∈ s.snapshot ↔ s.cell? v.x v.y = some v.cell ∧ s.flag? v.x v.y = some v.dirty ∧
        (v.dirty = true ∨
          (s.blinkEnabled = true ∧ s.blinkPhase = true) ∧ v.cell.attributes.blink = true)) ∧
    (IsRowMajor drawn.snapshot ∧
      ∀ v, v ∈ drawn.snapshot ↔ s.cell? v.x v.y = some v.cell ∧ v.dirty = false ∧
        (s.blinkEnabled = true ∧ s.blinkPhase = true) ∧ v.cell.attributes.blink = true) ∧
    (∃ dirty, lowered = { t with dirty }) ∧
    lowered.dirty.flat = t.lowerFlags s.snapshot ∧
    ∀ x y, lowered.flag? x y =
      if ∃ v ∈ s.snapshot, v.dirty = true ∧ v.x = x ∧ v.y = y then
        (t.flag? x y).map fun _ => false
      else t.flag? x y := by
  intro s drawn t lowered
  have hs : s.WellFormed := (wellFormed_empty size model history).foldl_mutate before
  have ht : t.WellFormed := hs.foldl_mutate later
  have hhides : s.hidesBlinking = true ↔ s.blinkEnabled = true ∧ s.blinkPhase = true :=
    Bool.and_eq_true_iff
  refine ⟨⟨isRowMajor_snapshot s, ?_⟩, ⟨isRowMajor_snapshot drawn, ?_⟩, ⟨_, rfl⟩,
    ht.flat_clearDirty _, ht.flag?_clearDirty _⟩
  · intro v
    rw [← hhides]
    exact hs.mem_snapshot_iff
  · intro v
    rw [← hhides]
    exact hs.mem_snapshot_clearDirty_iff

end Screen

end DasherTerminal
