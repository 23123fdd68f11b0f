import DasherTerminal.Proofs.Protocol.Effect

/-!
# Screens that look alike

The dirty flags, the blinking and the history of a screen never reach its cells.
Two screens that differ in nothing else still differ in nothing else after the
same tokens.
-/

namespace DasherTerminal

namespace Screen

/-- The screens have the same cells and write the next code to the same place in
the same way. -/
structure Alike (s t : Screen) : Prop where
  size : t.size = s.size
  model : t.model = s.model
  cells : t.cells = s.cells
  cursor : t.cursor = s.cursor
  attributes : t.attributes = s.attributes
  roll : t.roll = s.roll

variable {s t : Screen}

theorem alike_iff : s.Alike t ↔
    ∃ dirty blinkEnabled blinkPhase history,
      t = { s with dirty, blinkEnabled, blinkPhase, history } := by
  constructor
  · rintro ⟨hsize, hmodel, hcells, hcursor, hattributes, hroll⟩
    refine ⟨t.dirty, t.blinkEnabled, t.blinkPhase, t.history, ?_⟩
    rw [← hsize, ← hmodel, ← hcells, ← hcursor, ← hattributes, ← hroll]
  · rintro ⟨dirty, blinkEnabled, blinkPhase, history, rfl⟩
    exact ⟨rfl, rfl, rfl, rfl, rfl, rfl⟩

theorem Alike.symm (h : s.Alike t) : t.Alike s :=
  ⟨h.size.symm, h.model.symm, h.cells.symm, h.cursor.symm, h.attributes.symm, h.roll.symm⟩

theorem Alike.trans {u : Screen} (h : s.Alike t) (h' : t.Alike u) : s.Alike u :=
  ⟨h'.size.trans h.size, h'.model.trans h.model, h'.cells.trans h.cells,
    h'.cursor.trans h.cursor, h'.attributes.trans h.attributes, h'.roll.trans h.roll⟩

theorem alike_setBlinkEnabled (s : Screen) (on : Bool) : s.Alike (s.setBlinkEnabled on) := by
  unfold Screen.setBlinkEnabled
  split <;> exact ⟨rfl, rfl, rfl, rfl, rfl, rfl⟩

theorem Alike.setBlinkEnabled (h : s.Alike t) (on : Bool) :
    (s.setBlinkEnabled on).Alike (t.setBlinkEnabled on) :=
  (alike_setBlinkEnabled s on).symm.trans (h.trans (alike_setBlinkEnabled t on))

theorem Alike.newLine (h : s.Alike t) : s.newLine.Alike t.newLine := by
  obtain ⟨dirty, blinkEnabled, blinkPhase, history, rfl⟩ := alike_iff.mp h
  unfold Screen.newLine
  dsimp only
  split
  · exact ⟨rfl, rfl, rfl, rfl, rfl, rfl⟩
  · split <;> exact ⟨rfl, rfl, rfl, rfl, rfl, rfl⟩

theorem Alike.right (h : s.Alike t) : s.right.Alike t.right := by
  obtain ⟨dirty, blinkEnabled, blinkPhase, history, rfl⟩ := alike_iff.mp h
  unfold Screen.right
  dsimp only
  split <;> exact ⟨rfl, rfl, rfl, rfl, rfl, rfl⟩

theorem Alike.put (h : s.Alike t) (code : UInt8) : (s.put code).Alike (t.put code) := by
  obtain ⟨dirty, blinkEnabled, blinkPhase, history, rfl⟩ := alike_iff.mp h
  have hwritten : (s.write s.cursor.col s.cursor.row ⟨code, s.attributes⟩).Alike
      (({ s with dirty, blinkEnabled, blinkPhase, history } : Screen).write s.cursor.col
        s.cursor.row ⟨code, s.attributes⟩) := ⟨rfl, rfl, rfl, rfl, rfl, rfl⟩
  unfold Screen.put advance
  split
  · next hroom =>
      rw [if_pos (by exact hroom)]
      exact ⟨rfl, rfl, rfl, rfl, rfl, rfl⟩
  · next hedge =>
      rw [if_neg (by exact hedge)]
      exact hwritten.newLine

theorem Alike.foldl_put (h : s.Alike t) (text : List UInt8) :
    (text.foldl Screen.put s).Alike (text.foldl Screen.put t) := by
  induction text generalizing s t with
  | nil => exact h
  | cons code text ih => exact ih (h.put code)

end Screen

namespace Token

variable {s t : Screen}

theorem alike_effect (h : s.Alike t) (policy : AttributeOffPolicy) (u : Token) :
    (u.effect policy s).Alike (u.effect policy t) := by
  cases u with
  | code byte =>
      obtain ⟨dirty, blinkEnabled, blinkPhase, history, rfl⟩ := Screen.alike_iff.mp h
      simp only [effect]
      unfold Decoder.effect
      split
      case h_1 | h_2 => exact h.setBlinkEnabled _
      case h_4 => exact h.newLine
      case h_15 => exact h.right
      case h_20 =>
        by_cases hprintable : Decoder.isPrintable byte = true
        · rw [if_pos hprintable, if_pos hprintable]
          exact h.put byte
        · rw [if_neg hprintable, if_neg hprintable]
          exact h
      all_goals exact ⟨rfl, rfl, rfl, rfl, rfl, rfl⟩
  | address col row =>
      obtain ⟨dirty, blinkEnabled, blinkPhase, history, rfl⟩ := Screen.alike_iff.mp h
      simp only [effect]
      split <;> exact ⟨rfl, rfl, rfl, rfl, rfl, rfl⟩
  | command byte =>
      obtain ⟨dirty, blinkEnabled, blinkPhase, history, rfl⟩ := Screen.alike_iff.mp h
      simp only [effect]
      split
      · exact ⟨rfl, rfl, rfl, rfl, rfl, rfl⟩
      · split <;> exact ⟨rfl, rfl, rfl, rfl, rfl, rfl⟩

theorem alike_foldl (h : s.Alike t) (policy : AttributeOffPolicy) (tokens : List Token) :
    (tokens.foldl (fun s u => u.effect policy s) s).Alike
      (tokens.foldl (fun s u => u.effect policy s) t) := by
  induction tokens generalizing s t with
  | nil => exact h
  | cons u tokens ih => exact ih (alike_effect h policy u)

end Token

end DasherTerminal
