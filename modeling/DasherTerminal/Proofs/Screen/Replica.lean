import Mathlib.Data.Finset.Card
import Mathlib.Data.Finset.Prod
import DasherTerminal.Proofs.Screen.Sound

/-!
# Renderers' copies

A place that is not dirty has not changed since its flag was lowered. Hence a
copy that is brought up to date from snapshots alone is a copy of the whole
screen, and the count it gives is the number of places that differ.
-/

namespace DasherTerminal

namespace Screen

/-- Whatever is not dirty now was not dirty before either, and looks the same. -/
def KeepsClean (s t : Screen) : Prop :=
  ∀ x y, t.dirty.get? x y = some false →
    t.size = s.size ∧ s.dirty.get? x y = some false ∧ t.cell? x y = s.cell? x y

variable {s t u : Screen}

theorem KeepsClean.refl (s : Screen) : s.KeepsClean s := fun _ _ h => ⟨rfl, h, rfl⟩

theorem KeepsClean.trans (h : s.KeepsClean t) (h' : t.KeepsClean u) : s.KeepsClean u := by
  intro x y hclean
  obtain ⟨hsize', hdirty', hcell'⟩ := h' x y hclean
  obtain ⟨hsize, hdirty, hcell⟩ := h x y hdirty'
  exact ⟨hsize'.trans hsize, hdirty, hcell'.trans hcell⟩

theorem keepsClean_of_eq (hsize : t.size = s.size) (hdirty : t.dirty = s.dirty)
    (hcells : t.cells = s.cells) : s.KeepsClean t := by
  intro x y hclean
  rw [hdirty] at hclean
  exact ⟨hsize, hclean, by rw [cell?, cell?, hcells]⟩

theorem keepsClean_of_all_dirty (h : ∀ x y, t.dirty.get? x y ≠ some false) :
    s.KeepsClean t :=
  fun x y hclean => absurd hclean (h x y)

theorem get?_replicate_ne_false (width height x y : Nat) :
    (Grid.replicate width height true).get? x y ≠ some false := by
  rw [Grid.get?_replicate]
  split <;> simp

theorem get?_map_ne_false (dirty : Grid Bool) (x y : Nat) :
    (dirty.map fun _ => true).get? x y ≠ some false := by
  rw [Grid.get?_map]
  cases dirty.get? x y <;> simp

theorem keepsClean_resize (s : Screen) (size : ScreenSize) : s.KeepsClean (s.resize size) :=
  keepsClean_of_all_dirty fun x y => get?_replicate_ne_false size.cols size.lines x y

theorem keepsClean_markBlinkingDirty (s : Screen) : s.KeepsClean s.markBlinkingDirty := by
  intro x y hclean
  rw [markBlinkingDirty, Grid.get?_zipWith] at hclean
  obtain ⟨cell, _, hflag⟩ := Option.bind_eq_some_iff.mp hclean
  obtain ⟨flag, hflag, hor⟩ := Option.map_eq_some_iff.mp hflag
  have hfalse : flag = false := (Bool.or_eq_false_iff.mp hor).1
  rw [hfalse] at hflag
  exact ⟨rfl, hflag, rfl⟩

theorem keepsClean_setBlinkEnabled (s : Screen) (on : Bool) :
    s.KeepsClean (s.setBlinkEnabled on) := by
  unfold setBlinkEnabled
  split
  · exact .refl s
  · exact (keepsClean_of_eq (s := s) rfl rfl rfl).trans (keepsClean_markBlinkingDirty _)

theorem keepsClean_toggleBlinkPhase (s : Screen) : s.KeepsClean s.toggleBlinkPhase :=
  (keepsClean_of_eq (s := s) rfl rfl rfl).trans (keepsClean_markBlinkingDirty _)

/-- A change raises the flag of every place whose look it changes. -/
theorem Change.keepsClean (h : Change s t) : s.KeepsClean t := by
  cases h with
  | cursor c _ _ => exact keepsClean_of_eq rfl rfl rfl
  | attributes f => exact keepsClean_of_eq rfl rfl rfl
  | roll on => exact keepsClean_of_eq rfl rfl rfl
  | blinkEnabled on => exact keepsClean_setBlinkEnabled s on
  | write x y cell _ =>
      intro i j hclean
      rw [Screen.write, Grid.get?_set] at hclean
      split at hclean
      · cases hflag : s.dirty.get? i j <;> simp [hflag] at hclean
      · next hij =>
          refine ⟨rfl, hclean, ?_⟩
          rw [cell?, Screen.write, Grid.get?_set, if_neg hij]
          rfl
  | eraseToRight =>
      intro i j hclean
      rw [Screen.eraseToRight, Grid.get?_fillRight] at hclean
      split at hclean
      · cases hflag : s.dirty.get? i j <;> simp [hflag] at hclean
      · next hij =>
          refine ⟨rfl, hclean, ?_⟩
          rw [cell?, Screen.eraseToRight, Grid.get?_fillRight, if_neg hij]
          rfl
  | erasePage => exact keepsClean_resize s s.size
  | scroll => exact keepsClean_of_all_dirty fun x y => get?_map_ne_false s.dirty x y

theorem Transition.keepsClean (h : Transition s t) : s.KeepsClean t := by
  cases h with
  | host h => exact h.keepsClean
  | resize size => exact keepsClean_resize s size
  | setModel model => exact keepsClean_of_eq rfl rfl rfl
  | toggleBlinkPhase => exact keepsClean_toggleBlinkPhase s

theorem Transitions.keepsClean (h : s.Transitions t) : s.KeepsClean t := by
  induction h with
  | refl => exact .refl s
  | tail _ step ih => exact ih.trans step.keepsClean

/-! ### Snapshots -/

theorem snapshot_eq_filterMap (s : Screen) :
    s.snapshot = (Grid.positions s.size.cols s.size.lines).filterMap fun p => s.view? p.1 p.2 := by
  rw [snapshot, Grid.positions, List.filterMap_flatMap]
  congr 1
  funext y
  rw [List.filterMap_map]
  rfl

/-- What is not viewed is clean. -/
theorem WellFormed.clean_of_view?_eq_none (hs : s.WellFormed) {x y : Nat}
    (hx : x < s.size.cols) (hy : y < s.size.lines) (h : s.view? x y = none) :
    s.dirty.get? x y = some false := by
  obtain ⟨cell, hcell⟩ := hs.cells_shape.exists_get? hx hy
  obtain ⟨flag, hflag⟩ := hs.dirty_shape.exists_get? hx hy
  cases flag with
  | false => exact hflag
  | true => simp [view?, hcell, hflag] at h

theorem view?_eq_some {x y : Nat} {v : CellView} (h : s.view? x y = some v) :
    v.x = x ∧ v.y = y ∧ s.cell? x y = some v.cell ∧ s.dirty.get? x y = some v.dirty := by
  simp only [view?, Option.bind_eq_bind] at h
  obtain ⟨cell, hcell, h⟩ := Option.bind_eq_some_iff.mp h
  obtain ⟨flag, hflag, h⟩ := Option.bind_eq_some_iff.mp h
  split at h
  · cases h
    exact ⟨rfl, rfl, hcell, hflag⟩
  · cases h

theorem clearDirty_eq_setAll (s : Screen) (views : List CellView) :
    (s.clearDirty views).dirty =
      s.dirty.setAll ((views.filter (·.dirty)).map fun v => (v.x, v.y)) false := by
  have hfold : ∀ dirty : Grid Bool,
      views.foldl (fun d v => if v.dirty then d.set v.x v.y false else d) dirty =
        dirty.setAll ((views.filter (·.dirty)).map fun v => (v.x, v.y)) false := by
    induction views with
    | nil => exact fun dirty => rfl
    | cons v views ih =>
        intro dirty
        cases hv : v.dirty with
        | false => simp [hv, ih]
        | true => simpa [hv, Grid.setAll] using ih (dirty.set v.x v.y false)
  exact hfold s.dirty

/-- A renderer that has drawn a snapshot lowers every flag. -/
theorem WellFormed.clearDirty_snapshot (hs : s.WellFormed) (x y : Nat) :
    (s.clearDirty s.snapshot).dirty.get? x y ≠ some true := by
  rw [clearDirty_eq_setAll, Grid.get?_setAll]
  split
  · cases s.dirty.get? x y <;> simp
  · next hnot =>
      intro hdirty
      apply hnot
      have hxy : x < s.size.cols ∧ y < s.size.lines := hs.dirty_shape.lt_of_get? hdirty
      obtain ⟨cell, hcell⟩ := hs.cells_shape.exists_get? hxy.1 hxy.2
      have hview : s.view? x y = some ⟨x, y, cell, true⟩ := by simp [view?, hcell, hdirty]
      have hmem : (⟨x, y, cell, true⟩ : CellView) ∈ s.snapshot := by
        rw [snapshot_eq_filterMap, List.mem_filterMap]
        exact ⟨(x, y), Grid.mem_positions_iff.mpr hxy, hview⟩
      exact List.mem_map.mpr ⟨_, List.mem_filter.mpr ⟨hmem, rfl⟩, rfl⟩

end Screen

namespace Replica

/-- A copy is right wherever the screen is clean. -/
structure Tracks (m : Replica) (s : Screen) : Prop where
  shape : ∀ size, m.size = some size → m.cells.HasShape size.cols size.lines
  clean : ∀ x y, m.size = some s.size → s.dirty.get? x y = some false →
    m.cell? x y = s.cell? x y

theorem tracks_unsynced (s : Screen) : unsynced.Tracks s :=
  ⟨fun _ h => (nomatch h), fun _ _ h => (nomatch h)⟩

theorem Tracks.keepsClean {m : Replica} {s t : Screen} (hm : m.Tracks s)
    (h : s.KeepsClean t) : m.Tracks t := by
  refine ⟨hm.shape, ?_⟩
  intro x y hsize hclean
  obtain ⟨hsize', hdirty, hcell⟩ := h x y hclean
  rw [hsize'] at hsize
  rw [hcell]
  exact hm.clean x y hsize hdirty

/-- The copy that the next frame starts from: a copy of another size is blank. -/
def before (m : Replica) (s : Screen) : Grid Cell :=
  if m.size = some s.size then m.cells else .replicate s.size.cols s.size.lines .blank

/-- What a fitted copy needs: it has the screen's shape and is right wherever
the screen is clean. -/
structure Fitted (cells : Grid Cell) (s : Screen) : Prop where
  screen : s.WellFormed
  shape : cells.HasShape s.size.cols s.size.lines
  clean : ∀ x y, s.dirty.get? x y = some false → cells.get? x y = s.cell? x y

theorem Tracks.fit {m : Replica} {s : Screen} (hm : m.Tracks s) (hs : s.WellFormed) :
    Fitted (m.fit s).1.cells (m.fit s).2 ∧ (m.fit s).1.cells = m.before s ∧
      (m.fit s).1.size = some s.size ∧
      ∃ dirty, (m.fit s).2 = { s with dirty } := by
  unfold Replica.fit before
  split
  · next hsize =>
      exact ⟨⟨hs, hm.shape _ hsize, fun x y => hm.clean x y hsize⟩, rfl, hsize, s.dirty, rfl⟩
  · refine ⟨⟨hs.markAllDirty, Grid.hasShape_replicate .., ?_⟩, rfl, rfl, _, rfl⟩
    intro x y hclean
    exact absurd hclean (Screen.get?_map_ne_false s.dirty x y)

/-- Look at one place: take over its view, if it has one. -/
def look (s : Screen) (copied : Grid Cell × Nat) (p : Nat × Nat) : Grid Cell × Nat :=
  match s.view? p.1 p.2 with
  | some view => take copied view
  | none => copied

theorem foldl_take_snapshot (s : Screen) (copied : Grid Cell × Nat) :
    s.snapshot.foldl take copied =
      (Grid.positions s.size.cols s.size.lines).foldl (look s) copied := by
  rw [Screen.snapshot_eq_filterMap, List.foldl_filterMap]
  congr 1
  funext copied p
  unfold look
  cases s.view? p.1 p.2 <;> rfl

theorem Fitted.set {s : Screen} {cells : Grid Cell} {cell : Cell} {x y : Nat}
    (h : Fitted cells s) (hcell : s.cell? x y = some cell) : Fitted (cells.set x y cell) s := by
  refine ⟨h.screen, h.shape.set x y cell, ?_⟩
  intro i j hclean
  have hij := h.clean i j hclean
  rw [Grid.get?_set]
  split
  · next hat =>
      obtain ⟨rfl, rfl⟩ := hat
      rw [hij, hcell]
      rfl
  · exact hij

/-- The places where a copy is wrong. -/
def Wrong (cells : Grid Cell) (s : Screen) (p : Nat × Nat) : Prop :=
  cells.get? p.1 p.2 ≠ s.cell? p.1 p.2

instance (cells : Grid Cell) (s : Screen) : DecidablePred (Wrong cells s) :=
  fun _ => inferInstanceAs (Decidable (_ ≠ _))

/-- Looking at a place makes the copy right there, and counts it if it was wrong. -/
theorem Fitted.look {s : Screen} {cells : Grid Cell} {p : Nat × Nat} (h : Fitted cells s)
    (hp : p.1 < s.size.cols ∧ p.2 < s.size.lines) (n : Nat) :
    Fitted (look s (cells, n) p).1 s ∧
      (∀ q, (look s (cells, n) p).1.get? q.1 q.2 =
        if q = p then s.cell? p.1 p.2 else cells.get? q.1 q.2) ∧
      (look s (cells, n) p).2 = n + if Wrong cells s p then 1 else 0 := by
  obtain ⟨cell, hcell⟩ := h.screen.cells_shape.exists_get? hp.1 hp.2
  obtain ⟨old, hold⟩ := h.shape.exists_get? hp.1 hp.2
  change s.cell? p.1 p.2 = some cell at hcell
  by_cases hsame : old = cell
  · have hright : ¬Wrong cells s p := by simp [Wrong, hold, hcell, hsame]
    have hlook : Replica.look s (cells, n) p = (cells, n) := by
      unfold Replica.look
      cases hview : s.view? p.1 p.2 with
      | none => rfl
      | some view =>
          obtain ⟨hx, hy, hv, _⟩ := Screen.view?_eq_some hview
          obtain rfl : view.cell = cell := Option.some.inj (hv.symm.trans hcell)
          simp [take, hx, hy, hold, hsame]
    rw [hlook, if_neg hright]
    refine ⟨h, ?_, rfl⟩
    intro q
    split
    · next hq => rw [hq, hold, hcell, hsame]
    · rfl
  · have hwrong : Wrong cells s p := by simp [Wrong, hold, hcell, hsame]
    have hlook : Replica.look s (cells, n) p = (cells.set p.1 p.2 cell, n + 1) := by
      unfold Replica.look
      cases hview : s.view? p.1 p.2 with
      | none =>
          have hclean := h.screen.clean_of_view?_eq_none hp.1 hp.2 hview
          exact absurd (h.clean p.1 p.2 hclean) hwrong
      | some view =>
          obtain ⟨hx, hy, hv, _⟩ := Screen.view?_eq_some hview
          obtain rfl : view.cell = cell := Option.some.inj (hv.symm.trans hcell)
          simp [take, hx, hy, hold, hsame]
    rw [hlook, if_pos hwrong]
    refine ⟨h.set hcell, ?_, rfl⟩
    intro q
    rw [Grid.get?_set]
    simp only [Prod.ext_iff]
    split
    · next hq => rw [hq.1, hq.2, hold, hcell, Option.map_some]
    · rfl

/-- Looking at distinct places makes the copy right at each of them, and counts
those where it was wrong. -/
theorem Fitted.foldl_look {s : Screen} {cells : Grid Cell} {places : List (Nat × Nat)}
    (h : Fitted cells s) (hin : ∀ p ∈ places, p.1 < s.size.cols ∧ p.2 < s.size.lines)
    (hnodup : places.Nodup) (n : Nat) :
    Fitted (places.foldl (Replica.look s) (cells, n)).1 s ∧
      (∀ q, (places.foldl (Replica.look s) (cells, n)).1.get? q.1 q.2 =
        if q ∈ places then s.cell? q.1 q.2 else cells.get? q.1 q.2) ∧
      (places.foldl (Replica.look s) (cells, n)).2 = n + places.countP (Wrong cells s) := by
  induction places generalizing cells n with
  | nil => exact ⟨h, fun q => by simp, rfl⟩
  | cons p places ih =>
      obtain ⟨hfresh, hnodup⟩ := List.nodup_cons.mp hnodup
      obtain ⟨hfit, hget, hcount⟩ := h.look (hin p List.mem_cons_self) n
      generalize hlook : Replica.look s (cells, n) p = looked at hfit hget hcount
      obtain ⟨cells', n'⟩ := looked
      obtain ⟨hfit', hget', hcount'⟩ :=
        ih hfit (fun q hq => hin q (List.mem_cons_of_mem p hq)) hnodup n'
      rw [List.foldl_cons, hlook]
      refine ⟨hfit', ?_, ?_⟩
      · intro q
        rw [hget' q, hget q]
        by_cases hq : q = p
        · subst hq
          simp [hfresh]
        · simp [hq]
      · -- The places still to come are not `p`, so they are as wrong as before.
        have hsame : places.countP (Wrong cells' s) = places.countP (Wrong cells s) := by
          apply List.countP_congr
          intro q hq
          have hne : q ≠ p := fun heq => hfresh (heq ▸ hq)
          have hq' := hget q
          rw [if_neg hne] at hq'
          have hwrong : Wrong cells' s q ↔ Wrong cells s q := by simp only [Wrong, ← hq']
          simp only [decide_eq_true_eq]
          exact hwrong
        simp only at hcount
        rw [hcount', hsame, hcount, List.countP_cons]
        simp only [decide_eq_true_eq]
        omega

/-- The number of places that a frame changes in the copy. -/
theorem countP_positions (cells : Grid Cell) (s : Screen) :
    (Grid.positions s.size.cols s.size.lines).countP (Wrong cells s) =
      ((Finset.range s.size.cols ×ˢ Finset.range s.size.lines).filter (Wrong cells s)).card := by
  have hnodup := (Grid.nodup_positions s.size.cols s.size.lines).filter
    fun p => decide (Wrong cells s p)
  rw [List.countP_eq_length_filter, ← List.toFinset_card_of_nodup hnodup]
  congr 1
  ext p
  simp [Grid.mem_positions_iff]

theorem sound_sync (m : Replica) {s : Screen} (hs : s.Sound) : (m.sync s).2.1.Sound := by
  have hfit : (m.fit s).2.Sound := by
    unfold fit
    split
    · exact hs
    · exact hs.markAllDirty
  exact hfit.clearDirty _

/-- After a frame that starts from a fitted copy the copy is right everywhere. -/
theorem Fitted.foldl_take {s : Screen} {cells : Grid Cell} (h : Fitted cells s) :
    (s.snapshot.foldl take (cells, 0)).1 = s.cells ∧
      (s.snapshot.foldl take (cells, 0)).2 =
        ((Finset.range s.size.cols ×ˢ Finset.range s.size.lines).filter (Wrong cells s)).card := by
  have hin : ∀ p ∈ Grid.positions s.size.cols s.size.lines,
      p.1 < s.size.cols ∧ p.2 < s.size.lines := fun p hp => Grid.mem_positions_iff.mp hp
  obtain ⟨hfit, hget, hcount⟩ := h.foldl_look hin (Grid.nodup_positions ..) 0
  rw [foldl_take_snapshot]
  constructor
  · refine hfit.shape.ext h.screen.cells_shape ?_
    intro x y
    rw [hget (x, y)]
    split
    · rfl
    · next hout =>
        rw [Grid.mem_positions_iff] at hout
        rw [h.shape.get?_eq_none hout, h.screen.cells_shape.get?_eq_none hout]
  · rw [hcount, Nat.zero_add, countP_positions]

/-- After a frame the copy is the screen, and no flag of the screen is raised. -/
theorem Tracks.sync {m : Replica} {s : Screen} (hm : m.Tracks s) (hs : s.WellFormed) :
    (m.sync s).1 = ⟨some s.size, s.cells, s.cursor, s.hidesBlinking⟩ ∧
      (∃ dirty, (m.sync s).2.1 = { s with dirty }) ∧
      (∀ x y, (m.sync s).2.1.dirty.get? x y ≠ some true) ∧
      (m.sync s).2.2 =
        ((Finset.range s.size.cols ×ˢ Finset.range s.size.lines).filter
          (Wrong (m.before s) s)).card := by
  obtain ⟨hfit, hbefore, hsize, dirty, hscreen⟩ := hm.fit hs
  have hsync : m.sync s =
      (⟨(m.fit s).1.size, ((m.fit s).2.snapshot.foldl take ((m.fit s).1.cells, 0)).1,
          (m.fit s).2.cursor, (m.fit s).2.hidesBlinking⟩,
        (m.fit s).2.clearDirty (m.fit s).2.snapshot,
        ((m.fit s).2.snapshot.foldl take ((m.fit s).1.cells, 0)).2) := rfl
  obtain ⟨hcells, hcount⟩ := hfit.foldl_take
  have hclear := hfit.screen.clearDirty_snapshot
  rw [hscreen] at hclear
  rw [hsync, hcells, hcount, hsize, hbefore, hscreen]
  exact ⟨rfl, ⟨_, rfl⟩, hclear, rfl⟩

end Replica

end DasherTerminal
