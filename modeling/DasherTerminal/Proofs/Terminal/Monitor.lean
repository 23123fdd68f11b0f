import DasherTerminal.Proofs.Screen.Replica
import DasherTerminal.Proofs.Terminal.Operation

/-!
# A terminal and its renderer

One renderer draws frames of a terminal's screen at any moments between the
terminal's operations. Each frame leaves it with a copy of the whole screen,
although it reads the changed cells only.
-/

namespace DasherTerminal

/-- A terminal and the copy that one renderer keeps of its screen. -/
structure Monitor where
  terminal : Terminal
  replica : Replica

namespace Monitor

/-- What happens to a terminal that is being watched. -/
inductive Event where
  | operation (op : Terminal.Operation)
  | frame

def fresh (setup : Terminal.Setup) : Monitor := ⟨.fresh setup, .unsynced⟩

def next (d : Monitor) : Event → Monitor
  | .operation op => { d with terminal := d.terminal.perform op }
  | .frame =>
    ⟨{ d.terminal with screen := (d.replica.sync d.terminal.screen).2.1 },
      (d.replica.sync d.terminal.screen).1⟩

def run (d : Monitor) (events : List Event) : Monitor := events.foldl next d

/-- The copy is right wherever the screen of a sound terminal is clean. -/
structure Coherent (d : Monitor) : Prop where
  terminal : d.terminal.Sound
  tracks : d.replica.Tracks d.terminal.screen

theorem coherent_fresh (setup : Terminal.Setup) : (fresh setup).Coherent :=
  ⟨Terminal.sound_fresh setup, Replica.tracks_unsynced _⟩

theorem Coherent.next {d : Monitor} (h : d.Coherent) (event : Event) : (d.next event).Coherent := by
  cases event with
  | operation op =>
      have hkeeps := (Terminal.transitions_perform h.terminal.screen.wellFormed op).keepsClean
      exact ⟨h.terminal.perform op, h.tracks.keepsClean hkeeps⟩
  | frame =>
      obtain ⟨hcopy, ⟨dirty, hscreen⟩, _, _⟩ := h.tracks.sync h.terminal.screen.wellFormed
      refine ⟨⟨d.replica.sound_sync h.terminal.screen, h.terminal.wait⟩, ?_⟩
      change (d.replica.sync d.terminal.screen).1.Tracks (d.replica.sync d.terminal.screen).2.1
      rw [hcopy, hscreen]
      refine ⟨?_, fun _ _ _ _ => rfl⟩
      intro size hsize
      obtain rfl : d.terminal.screen.size = size := Option.some.inj hsize
      exact h.terminal.screen.wellFormed.cells_shape

theorem Coherent.run {d : Monitor} (h : d.Coherent) (events : List Event) :
    (d.run events).Coherent := by
  induction events generalizing d with
  | nil => exact h
  | cons event events ih => exact ih (h.next event)

/-- Whatever happened before, after a frame the copy is the screen, no flag is
raised, and the count is the number of places where the copy was another. -/
theorem frame_of_run (setup : Terminal.Setup) (events : List Event) :
    let d := (fresh setup).run events
    let s := d.terminal.screen
    let m := (d.replica.sync s).1
    let t := (d.replica.sync s).2.1
    let changed := (d.replica.sync s).2.2
    (∃ dirty, t = { s with dirty }) ∧
      m.size = some t.size ∧
      (∀ x y, x < t.size.cols → y < t.size.lines →
        ∃ cell, t.cell? x y = some cell ∧ m.cell? x y = some cell) ∧
      (∀ x y, m.cell? x y = t.cell? x y) ∧
      m.cursor = t.cursor ∧
      m.hidesBlinking = (t.blinkEnabled && t.blinkPhase) ∧
      (∀ x y, t.dirty.get? x y ≠ some true) ∧
      changed = ((Finset.range t.size.cols ×ˢ Finset.range t.size.lines).filter fun p =>
        m.cell? p.1 p.2 ≠ (d.replica.before s).get? p.1 p.2).card := by
  intro d s m t changed
  have hd : d.Coherent := (coherent_fresh setup).run events
  have hs : s.WellFormed := hd.terminal.screen.wellFormed
  obtain ⟨hcopy, ⟨dirty, hscreen⟩, hclear, hcount⟩ := hd.tracks.sync hs
  have hm : m = ⟨some s.size, s.cells, s.cursor, s.hidesBlinking⟩ := hcopy
  have ht : t = { s with dirty } := hscreen
  refine ⟨⟨dirty, ht⟩, ?_, ?_, ?_, ?_, ?_, hclear, ?_⟩
  · rw [hm, ht]
  · rw [hm, ht]
    intro x y hx hy
    obtain ⟨cell, hcell⟩ := hs.cells_shape.exists_get? hx hy
    exact ⟨cell, hcell, hcell⟩
  · rw [hm, ht]
    exact fun _ _ => rfl
  · rw [hm, ht]
  · rw [hm, ht]
    rfl
  · have hchanged : changed = _ := hcount
    rw [hchanged, hm, ht]
    congr 1
    apply Finset.filter_congr
    intro p _
    exact ne_comm

end Monitor

end DasherTerminal
