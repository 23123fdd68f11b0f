import DasherTerminal.Proofs.Screen.Scroll
import DasherTerminal.Proofs.Terminal.Operation

/-!
# What one byte may touch

Most bytes touch no cell. Those that do replace the cell at the cursor, blank a
part of the cursor's row, blank the page, or scroll; beyond that region
everything stays.
-/

namespace DasherTerminal

namespace Screen

/-- `t` has the cells and the history of `s`. -/
structure KeepsCells (s t : Screen) : Prop where
  cells : t.cells = s.cells
  history : t.history = s.history

variable {s : Screen}

theorem blinking_of_setBlinkEnabled {on : Bool} {x y : Nat}
    (hclean : s.dirty.get? x y ≠ some true)
    (hdirty : (s.setBlinkEnabled on).dirty.get? x y = some true) :
    ∃ cell, s.cell? x y = some cell ∧ cell.attributes.blink = true := by
  rw [setBlinkEnabled] at hdirty
  split at hdirty
  · exact absurd hdirty hclean
  · rw [markBlinkingDirty, Grid.get?_zipWith] at hdirty
    obtain ⟨cell, hcell, hflag⟩ := Option.bind_eq_some_iff.mp hdirty
    obtain ⟨flag, hflag, hor⟩ := Option.map_eq_some_iff.mp hflag
    refine ⟨cell, hcell, (Bool.or_eq_true_iff.mp hor).resolve_left ?_⟩
    rintro rfl
    exact hclean hflag

/-- A code scrolls at the bottom right corner only. -/
theorem Sound.footprint_put (hs : s.Sound) {code : UInt8}
    (hcode : Decoder.isPrintable code = true) :
    let written := s.write s.cursor.col s.cursor.row ⟨code, s.attributes⟩
    if s.cursor.row + 1 = s.size.lines ∧ s.cursor.col + 1 = s.size.cols ∧ s.roll = true then
      written.ScrollsTo (s.put code) ∧ written.rowText? 0 = s.rowText? 0 ∧
        written.history = s.history
    else (s.put code).cells = written.cells ∧ (s.put code).history = s.history := by
  intro written
  split
  · next hcorner =>
      have htop : 0 ≠ s.cursor.row := by
        have hlines := s.size.one_lt_lines
        omega
      exact ⟨hs.scrollsTo_put hcode hcorner.1 hcorner.2.1 hcorner.2.2, rowText?_write _ htop, rfl⟩
  · next hstays =>
      obtain ⟨cursor, hput⟩ := hs.wellFormed.put_eq hcode hstays
      rw [hput]
      exact ⟨rfl, rfl⟩

theorem Sound.footprint_newLine (hs : s.Sound) :
    if s.cursor.row + 1 = s.size.lines ∧ s.roll = true then s.ScrollsTo s.newLine
    else s.KeepsCells s.newLine := by
  split
  · next hlast => exact hs.scrollsTo_newLine hlast.1 hlast.2
  · next hstays =>
      obtain ⟨cursor, hline⟩ := hs.wellFormed.newLine_eq hstays
      rw [hline]
      exact ⟨rfl, rfl⟩

theorem WellFormed.cell?_eraseToRight (hs : s.WellFormed) (x y : Nat) :
    s.eraseToRight.cell? x y =
      if y = s.cursor.row ∧ s.cursor.col ≤ x ∧ x < s.size.cols then some .blank
      else s.cell? x y := by
  have hrow := hs.row_lt
  rw [cell?, eraseToRight, Grid.get?_fillRight]
  by_cases hx : x < s.size.cols
  · by_cases hat : s.cursor.col ≤ x ∧ y = s.cursor.row
    · obtain ⟨old, hold⟩ := hs.cells_shape.exists_get? hx (hat.2 ▸ hrow)
      rw [if_pos hat, if_pos ⟨hat.2, hat.1, hx⟩, hold, Option.map_some]
    · rw [if_neg hat, if_neg fun h => hat ⟨h.2.1, h.1⟩]
      rfl
  · have hnone : s.cells.get? x y = none := hs.cells_shape.get?_eq_none fun h => hx h.1
    have hout : ¬(y = s.cursor.row ∧ s.cursor.col ≤ x ∧ x < s.size.cols) := fun h => hx h.2.2
    rw [if_neg hout, cell?, hnone]
    split <;> rfl

theorem cell?_erasePage {x y : Nat} (hx : x < s.size.cols) (hy : y < s.size.lines) :
    s.erasePage.cell? x y = some .blank := by
  rw [cell?, erasePage, Grid.get?_replicate, if_pos ⟨hx, hy⟩]

end Screen

namespace Decoder

/-- The codes that change cells when they are not arguments. -/
def writesCells (byte : UInt8) : Bool :=
  isPrintable byte || byte == 0o12 || byte == 0o13 || byte == 0o14

variable {s : Screen}

theorem effect_of_silent (policy : AttributeOffPolicy) {byte : UInt8}
    (h : writesCells byte = false) (hon : byte ≠ 0o03) (hoff : byte ≠ 0o04) :
    ∃ cursor attributes roll, effect policy byte s = { s with cursor, attributes, roll } := by
  unfold effect
  split
  case h_1 => exact absurd rfl hon
  case h_2 => exact absurd rfl hoff
  case h_4 | h_5 | h_6 => exact absurd h (by decide)
  case h_15 =>
    rw [Screen.right]
    split <;> exact ⟨_, _, _, rfl⟩
  case h_20 =>
    have hprintable : isPrintable byte = false := by
      rw [writesCells, Bool.or_assoc, Bool.or_assoc] at h
      exact (Bool.or_eq_false_iff.mp h).1
    rw [if_neg (Bool.eq_false_iff.mp hprintable)]
    exact ⟨_, _, _, rfl⟩
  all_goals exact ⟨_, _, _, rfl⟩

theorem effectWith_eq (op : Opcode) (given : List UInt8) :
    ∃ cursor attributes, effectWith op given s = { s with cursor, attributes } := by
  unfold effectWith
  split
  · split
    · exact ⟨_, _, rfl⟩
    · exact ⟨_, _, rfl⟩
  · split
    · exact ⟨_, _, rfl⟩
    · split <;> exact ⟨_, _, rfl⟩
  · exact ⟨_, _, rfl⟩

/-- All that a byte can do that is an argument or no code that changes cells. -/
theorem step_of_silent (d : Decoder) {byte : UInt8}
    (h : d.wait ≠ .idle ∨ writesCells byte = false) :
    (∃ cursor attributes roll, (d.step s byte).2 = { s with cursor, attributes, roll }) ∨
      d.wait = .idle ∧ ∃ on, (byte = 0o03 ∨ byte = 0o04) ∧
        (d.step s byte).2 = s.setBlinkEnabled on := by
  unfold step
  split
  · next hidle =>
      have hsilent := h.resolve_left (fun hnot => hnot hidle)
      cases hop : opcode? s.model byte with
      | some op =>
          rw [dispatch, hop]
          exact .inl ⟨_, _, _, rfl⟩
      | none =>
          rw [dispatch_of_opcode?_eq_none d hop]
          by_cases hon : byte = 0o03
          · subst hon
            exact .inr ⟨hidle, true, .inl rfl, rfl⟩
          · by_cases hoff : byte = 0o04
            · subst hoff
              exact .inr ⟨hidle, false, .inr rfl, rfl⟩
            · exact .inl (effect_of_silent d.policy hsilent hon hoff)
  · dsimp only
    split
    · exact .inl ⟨_, _, _, rfl⟩
    · next op given _ hlast =>
        obtain ⟨cursor, attributes, heffect⟩ := effectWith_eq (s := s) op (given ++ [byte])
        exact .inl ⟨cursor, attributes, s.roll, heffect⟩

theorem keepsCells_step (d : Decoder) {byte : UInt8}
    (h : d.wait ≠ .idle ∨ writesCells byte = false) :
    s.KeepsCells (d.step s byte).2 ∧
      ∀ x y, s.dirty.get? x y ≠ some true → (d.step s byte).2.dirty.get? x y = some true →
        (d.wait = .idle ∧ (byte = 0o03 ∨ byte = 0o04)) ∧
        ∃ cell, s.cell? x y = some cell ∧ cell.attributes.blink = true := by
  obtain ⟨cursor, attributes, roll, hstep⟩ | ⟨hidle, on, hcode, hstep⟩ :=
    step_of_silent (s := s) d h
  · rw [hstep]
    exact ⟨⟨rfl, rfl⟩, fun x y hclean hdirty => absurd hdirty hclean⟩
  · rw [hstep]
    exact ⟨⟨Screen.cells_setBlinkEnabled on, Screen.history_setBlinkEnabled on⟩,
      fun x y hclean hdirty =>
        ⟨⟨hidle, hcode⟩, Screen.blinking_of_setBlinkEnabled hclean hdirty⟩⟩

theorem step_of_writesCells {d : Decoder} (hidle : d.wait = .idle) {byte : UInt8}
    (h : writesCells byte = true) : (d.step s byte).2 = effect d.policy byte s := by
  have haddress : byte ≠ 0o20 := by
    rintro rfl
    exact absurd h (by decide)
  have hcommand : byte ≠ 0o36 := by
    rintro rfl
    exact absurd h (by decide)
  have hop : opcode? s.model byte = none := by simp [opcode?, haddress, hcommand]
  have hstep : d.step s byte = d.dispatch s byte := by simp [step, hidle]
  rw [hstep, dispatch_of_opcode?_eq_none d hop]

end Decoder

namespace Terminal

/-- A byte disturbs only what it is meant to. One that is an argument, or that
writes no cells, leaves cells and history alone, and only 003 and 004 raise
flags, those of blinking cells. A printable code replaces the cell at the
cursor; 013 blanks the rest of the row, 014 the page. Only a printable code at
the bottom right corner and 012 on the last line scroll, both in roll mode. -/
theorem footprint_process {t : Terminal} (h : Reachable t) (byte : UInt8) :
    let s := t.screen
    let u := (t.process [byte]).screen
    let written := s.write s.cursor.col s.cursor.row ⟨byte, s.attributes⟩
    (u.size = s.size ∧ u.model = s.model ∧ u.blinkPhase = s.blinkPhase) ∧
    (∀ x y, s.dirty.get? x y = some true → u.dirty.get? x y = some true) ∧
    (t.decoder.wait ≠ .idle ∨ Decoder.writesCells byte = false →
      s.KeepsCells u ∧
      ∀ x y, s.dirty.get? x y ≠ some true → u.dirty.get? x y = some true →
        (t.decoder.wait = .idle ∧ (byte = 0o03 ∨ byte = 0o04)) ∧
        ∃ cell, s.cell? x y = some cell ∧ cell.attributes.blink = true) ∧
    (t.decoder.wait = .idle →
      (Decoder.isPrintable byte = true →
        (∀ x y, written.cell? x y =
          if x = s.cursor.col ∧ y = s.cursor.row then some ⟨byte, s.attributes⟩
          else s.cell? x y) ∧
        if s.cursor.row + 1 = s.size.lines ∧ s.cursor.col + 1 = s.size.cols ∧ s.roll = true then
          written.ScrollsTo u ∧ written.rowText? 0 = s.rowText? 0 ∧ written.history = s.history
        else u.cells = written.cells ∧ u.history = s.history) ∧
      (byte = 0o12 →
        if s.cursor.row + 1 = s.size.lines ∧ s.roll = true then s.ScrollsTo u
        else s.KeepsCells u) ∧
      (byte = 0o13 →
        (∀ x y, u.cell? x y =
          if y = s.cursor.row ∧ s.cursor.col ≤ x ∧ x < s.size.cols then some .blank
          else s.cell? x y) ∧
        u.cursor = s.cursor ∧ u.attributes = s.attributes ∧ u.history = s.history) ∧
      (byte = 0o14 →
        (∀ x y, x < s.size.cols → y < s.size.lines → u.cell? x y = some .blank) ∧
        u.cursor = .home ∧ u.attributes = .plain ∧ u.history = s.history)) := by
  intro s u written
  have hs : s.Sound := h.sound.screen
  have hchanges : s.Changes u := Decoder.changes_step t.decoder hs.wellFormed byte
  refine ⟨⟨hchanges.size_eq, hchanges.model_eq, hchanges.blinkPhase_eq⟩,
    fun x y => hchanges.dirty_of_dirty hs.wellFormed, ?_, ?_⟩
  · exact Decoder.keepsCells_step t.decoder
  · intro hidle
    have heffect : Decoder.writesCells byte = true → u = Decoder.effect t.decoder.policy byte s :=
      Decoder.step_of_writesCells hidle
    refine ⟨?_, ?_, ?_, ?_⟩
    · intro hprintable
      have hu : u = s.put byte := by
        rw [heffect (by simp [Decoder.writesCells, hprintable]),
          Decoder.effect_of_isPrintable _ hprintable]
      rw [hu]
      exact ⟨hs.wellFormed.cell?_write _, hs.footprint_put hprintable⟩
    · rintro rfl
      have hu : u = s.newLine := heffect rfl
      rw [hu]
      exact hs.footprint_newLine
    · rintro rfl
      have hu : u = s.eraseToRight := heffect rfl
      rw [hu]
      exact ⟨hs.wellFormed.cell?_eraseToRight, rfl, rfl, rfl⟩
    · rintro rfl
      have hu : u = s.erasePage := heffect rfl
      rw [hu]
      exact ⟨fun x y => Screen.cell?_erasePage, rfl, rfl, rfl⟩

/-- A code at the bottom right corner of a fresh terminal scrolls. -/
theorem footprint_process_corner :
    let t := (fresh .default).process [0o20, 80, 24]
    let written := t.screen.write 79 23 ⟨0x41, .plain⟩
    (t.decoder.wait = .idle ∧ t.screen.cursor = ⟨23, 79⟩ ∧ t.screen.roll = true) ∧
      written.ScrollsTo (t.process [0x41]).screen := by
  intro t written
  have hreachable : Reachable t :=
    (Reachable.fresh .default).perform (.process [0o20, 80, 24])
  have hidle : t.decoder.wait = .idle := rfl
  have hcorner : t.screen.cursor.row + 1 = t.screen.size.lines ∧
      t.screen.cursor.col + 1 = t.screen.size.cols ∧ t.screen.roll = true := ⟨rfl, rfl, rfl⟩
  obtain ⟨_, _, _, hwrites⟩ := footprint_process hreachable 0x41
  obtain ⟨_, hput⟩ := (hwrites hidle).1 rfl
  rw [if_pos hcorner] at hput
  exact ⟨⟨hidle, rfl, rfl⟩, hput.1⟩

end Terminal

end DasherTerminal
