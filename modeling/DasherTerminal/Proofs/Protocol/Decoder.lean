import DasherTerminal.Proofs.Screen.Change

/-!
# Bytes one at a time

What one byte does to the decoder and to the screen: the screen undergoes
changes, a printable code is put at the cursor, and arguments never pile up.
-/

namespace DasherTerminal.Decoder

variable {s : Screen}

theorem changes_effect (hs : s.WellFormed) (policy : AttributeOffPolicy) (byte : UInt8) :
    s.Changes (effect policy byte s) := by
  unfold effect
  split
  · exact (Screen.Change.blinkEnabled true).changes
  · exact (Screen.Change.blinkEnabled false).changes
  · exact Screen.changes_home
  · exact Screen.changes_newLine hs
  · exact Screen.Change.eraseToRight.changes
  · exact Screen.Change.erasePage.changes
  · exact Screen.changes_carriageReturn hs
  · exact (Screen.Change.attributes _).changes
  · exact (Screen.Change.attributes _).changes
  · exact (Screen.Change.roll true).changes
  · exact (Screen.Change.roll false).changes
  · exact (Screen.Change.attributes _).changes
  · exact (Screen.Change.attributes _).changes
  · exact Screen.changes_up hs
  · exact Screen.changes_right hs
  · exact Screen.changes_left hs
  · exact Screen.changes_down hs
  · exact (Screen.Change.attributes _).changes
  · exact (Screen.Change.attributes _).changes
  · split
    · next h => exact Screen.changes_put hs h
    · exact .refl

theorem changes_effectWith (op : Opcode) (given : List UInt8) :
    s.Changes (effectWith op given s) := by
  unfold effectWith
  split
  · split
    · exact Screen.changes_moveTo _ _
    · exact .refl
  · split
    · exact (Screen.Change.attributes _).changes
    · split
      · exact (Screen.Change.attributes _).changes
      · exact .refl
  · exact .refl

theorem changes_step (d : Decoder) (hs : s.WellFormed) (byte : UInt8) :
    s.Changes (d.step s byte).2 := by
  unfold step
  split
  · unfold dispatch
    split
    · exact .refl
    · exact changes_effect hs _ byte
  · dsimp only
    split
    · exact .refl
    · exact changes_effectWith _ _

theorem changes_run (d : Decoder) (hs : s.WellFormed) (bytes : List UInt8) :
    s.Changes (d.run s bytes).2 := by
  induction bytes generalizing d s with
  | nil => exact .refl
  | cons byte bytes ih =>
      have hstep := changes_step d hs byte
      rw [run_cons]
      exact hstep.trans (ih _ (hstep.wellFormed hs))

/-! ### Codes without arguments -/

/-- What a code without arguments does, the bell being the only one that the
user is told of. -/
theorem dispatch_of_opcode?_eq_none (d : Decoder) {byte : UInt8}
    (h : opcode? s.model byte = none) :
    d.dispatch s byte =
      ({ d with notifications := d.notifications ++ if byte = 0o07 then [.bell] else [] },
        effect d.policy byte s) := by
  rw [dispatch, h]
  by_cases hbell : byte = 0o07
  · simp [hbell]
  · simp [hbell]

/-- No printable code is a control code. -/
theorem effect_of_isPrintable (policy : AttributeOffPolicy) {byte : UInt8}
    (h : isPrintable byte = true) (s : Screen) : effect policy byte s = s.put byte := by
  unfold effect
  split
  case h_20 => rw [if_pos h]
  all_goals exact absurd h (by decide)

theorem opcode?_of_isPrintable (model : Model) {byte : UInt8} (h : isPrintable byte = true) :
    opcode? model byte = none := by
  have haddress : byte ≠ 0o20 := by
    rintro rfl
    exact absurd h (by decide)
  have hcommand : byte ≠ 0o36 := by
    rintro rfl
    exact absurd h (by decide)
  simp [opcode?, haddress, hcommand]

/-! ### Waiting for arguments -/

/-- A decoder that waits for arguments has not been given all of them. -/
def Wait.Unfinished (w : Wait) : Prop :=
  ∀ op given, w = .arguments op given → given.length < op.arity

theorem unfinished_idle : Wait.Unfinished .idle := fun _ _ h => (nomatch h)

theorem unfinished_step {d : Decoder} (h : d.wait.Unfinished) (s : Screen) (byte : UInt8) :
    (d.step s byte).1.wait.Unfinished := by
  unfold step
  split
  · unfold dispatch
    split
    · next op _ =>
        intro _ _ hwait
        cases hwait
        cases op <;> exact Nat.zero_lt_succ _
    · dsimp only
      split <;> exact h
  · dsimp only
    split
    · next hmore =>
        intro op given hwait
        cases hwait
        exact hmore
    · exact unfinished_idle

theorem unfinished_run {d : Decoder} (h : d.wait.Unfinished) (s : Screen) (bytes : List UInt8) :
    (d.run s bytes).1.wait.Unfinished := by
  induction bytes generalizing d s with
  | nil => exact h
  | cons byte bytes ih => exact ih (unfinished_step h s byte) _

end DasherTerminal.Decoder
